import LinkTap.Mavlink.Dialect.System
import LinkTap.Mavlink.Dialect.Sensors
import LinkTap.Mavlink.Dialect.Mission
import LinkTap.Mavlink.Dialect.Control
import LinkTap.Mavlink.Dialect.Estimation
import LinkTap.Mavlink.Dialect.Vehicle
import LinkTap.Mavlink.Dialect.Camera
import LinkTap.Mavlink.Dialect.Devices
import LinkTap.Mavlink.Dialect.Tracking

/-!
# The standard dialect

Every message of the standard MAVLink dialect, in the order of their numbers, with lookup by
number. A number outside the dialect has no definition; it is named `UNKNOWN_` and its number.
-/

set_option autoImplicit false

namespace LinkTap.Mavlink.Dialect

def messages : List MessageSpec := [
  heartbeat, sysStatus, systemTime, ping, changeOperatorControl, changeOperatorControlAck, authKey,
  linkNodeStatus, setMode, paramRequestRead, paramRequestList, paramValue, paramSet, gpsRawInt,
  gpsStatus, scaledImu, rawImu, rawPressure, scaledPressure, attitude, attitudeQuaternion,
  localPositionNed, globalPositionInt, rcChannelsScaled, rcChannelsRaw, servoOutputRaw,
  missionRequestPartialList, missionWritePartialList, missionItem, missionRequest,
  missionSetCurrent, missionCurrent, missionRequestList, missionCount, missionClearAll,
  missionItemReached, missionAck, setGpsGlobalOrigin, gpsGlobalOrigin, paramMapRc,
  missionRequestInt, safetySetAllowedArea, safetyAllowedArea, attitudeQuaternionCov,
  navControllerOutput, globalPositionIntCov, localPositionNedCov, rcChannels, requestDataStream,
  dataStream, manualControl, rcChannelsOverride, missionItemInt, vfrHud, commandInt, commandLong,
  commandAck, commandCancel, manualSetpoint, setAttitudeTarget, attitudeTarget,
  setPositionTargetLocalNed, positionTargetLocalNed, setPositionTargetGlobalInt,
  positionTargetGlobalInt, localPositionNedSystemGlobalOffset, hilState, hilControls,
  hilRcInputsRaw, hilActuatorControls, opticalFlow, globalVisionPositionEstimate,
  visionPositionEstimate, visionSpeedEstimate, viconPositionEstimate, highresImu, opticalFlowRad,
  hilSensor, simState, radioStatus, fileTransferProtocol, timesync, cameraTrigger, hilGps,
  hilOpticalFlow, hilStateQuaternion, scaledImu2, logRequestList, logEntry, logRequestData,
  logData, logErase, logRequestEnd, gpsInjectData, gps2Raw, powerStatus, serialControl, gpsRtk,
  gps2Rtk, scaledImu3, dataTransmissionHandshake, encapsulatedData, distanceSensor, terrainRequest,
  terrainData, terrainCheck, terrainReport, scaledPressure2, attPosMocap, setActuatorControlTarget,
  actuatorControlTarget, altitude, resourceRequest, scaledPressure3, followTarget,
  controlSystemState, batteryStatus, autopilotVersion, landingTarget, fenceStatus, magCalReport,
  efiStatus, estimatorStatus, windCov, gpsInput, gpsRtcmData, highLatency, highLatency2, vibration,
  homePosition, setHomePosition, messageInterval, extendedSysState, adsbVehicle, collision,
  v2Extension, memoryVect, debugVect, namedValueFloat, namedValueInt, statustext, debug,
  setupSigning, buttonChange, playTune, cameraInformation, cameraSettings, storageInformation,
  cameraCaptureStatus, cameraImageCaptured, flightInformation, mountOrientation, loggingData,
  loggingDataAcked, loggingAck, videoStreamInformation, videoStreamStatus, cameraFovStatus,
  cameraTrackingImageStatus, cameraTrackingGeoStatus, gimbalManagerInformation,
  gimbalManagerStatus, gimbalManagerSetAttitude, gimbalDeviceInformation, gimbalDeviceSetAttitude,
  gimbalDeviceAttitudeStatus, autopilotStateForGimbalDevice, gimbalManagerSetPitchyaw,
  gimbalManagerSetManualControl, escInfo, escStatus, wifiConfigAp, protocolVersion, aisVessel,
  uavcanNodeStatus, uavcanNodeInfo, paramExtRequestRead, paramExtRequestList, paramExtValue,
  paramExtSet, paramExtAck, obstacleDistance, odometry, trajectoryRepresentationWaypoints,
  trajectoryRepresentationBezier, cellularStatus, isbdLinkStatus, cellularConfig, rawRpm,
  utmGlobalPosition, debugFloatArray, orbitExecutionStatus, smartBatteryInfo, generatorStatus,
  actuatorOutputStatus, timeEstimateToTarget, tunnel, canFrame, canfdFrame, canFilterModify,
  onboardComputerStatus, componentInformation, componentMetadata, playTuneV2, supportedTunes,
  event, currentEventSequence, requestEvent, responseEventError, wheelDistance, winchStatus,
  openDroneIdBasicId, openDroneIdLocation, openDroneIdAuthentication, openDroneIdSelfId,
  openDroneIdSystem, openDroneIdOperatorId, openDroneIdMessagePack, openDroneIdArmStatus,
  openDroneIdSystemUpdate, hygrometerSensor]

/-- The definition of the message with the given number, if the dialect has one. -/
def find? (id : Nat) : Option MessageSpec :=
  messages.find? (·.id == id)

/-- The message's name, or `UNKNOWN_` followed by its number outside the dialect. -/
def messageName (id : Nat) : String :=
  match find? id with
  | some spec => spec.name
  | none => "UNKNOWN_" ++ toString id

end LinkTap.Mavlink.Dialect
