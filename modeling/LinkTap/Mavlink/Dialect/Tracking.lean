import LinkTap.Mavlink.Dialect.Flags
import LinkTap.Mavlink.Dialect.Identification

/-!
# Messages: wheels, winches and remote identification

Wheel distances, winch status, the broadcast remote identification messages and
hygrometers.
-/

set_option autoImplicit false

namespace LinkTap.Mavlink.Dialect

def wheelDistance : MessageSpec where
  id := 9000
  name := "WHEEL_DISTANCE"
  fields := [
    .single .u64 "time_usec",
    .single .u8 "count",
    .array .f64 16 "distance"]

def winchStatus : MessageSpec where
  id := 9005
  name := "WINCH_STATUS"
  fields := [
    .single .u64 "time_usec",
    .single .f32 "line_length",
    .single .f32 "speed",
    .single .f32 "tension",
    .single .f32 "voltage",
    .single .f32 "current",
    .single .i16 "temperature",
    .flags .u32 mavWinchStatusFlag "status"]

def openDroneIdBasicId : MessageSpec where
  id := 12900
  name := "OPEN_DRONE_ID_BASIC_ID"
  fields := [
    .single .u8 "target_system",
    .single .u8 "target_component",
    .array .u8 20 "id_or_mac",
    .enumerated .u8 mavOdidIdType "id_type",
    .enumerated .u8 mavOdidUaType "ua_type",
    .array .u8 20 "uas_id"]

def openDroneIdLocation : MessageSpec where
  id := 12901
  name := "OPEN_DRONE_ID_LOCATION"
  fields := [
    .single .u8 "target_system",
    .single .u8 "target_component",
    .array .u8 20 "id_or_mac",
    .enumerated .u8 mavOdidStatus "status",
    .single .u16 "direction",
    .single .u16 "speed_horizontal",
    .single .i16 "speed_vertical",
    .single .i32 "latitude",
    .single .i32 "longitude",
    .single .f32 "altitude_barometric",
    .single .f32 "altitude_geodetic",
    .enumerated .u8 mavOdidHeightRef "height_reference",
    .single .f32 "height",
    .enumerated .u8 mavOdidHorAcc "horizontal_accuracy",
    .enumerated .u8 mavOdidVerAcc "vertical_accuracy",
    .enumerated .u8 mavOdidVerAcc "barometer_accuracy",
    .enumerated .u8 mavOdidSpeedAcc "speed_accuracy",
    .single .f32 "timestamp",
    .enumerated .u8 mavOdidTimeAcc "timestamp_accuracy"]

def openDroneIdAuthentication : MessageSpec where
  id := 12902
  name := "OPEN_DRONE_ID_AUTHENTICATION"
  fields := [
    .single .u8 "target_system",
    .single .u8 "target_component",
    .array .u8 20 "id_or_mac",
    .enumerated .u8 mavOdidAuthType "authentication_type",
    .single .u8 "data_page",
    .single .u8 "last_page_index",
    .single .u8 "length",
    .single .u32 "timestamp",
    .array .u8 23 "authentication_data"]

def openDroneIdSelfId : MessageSpec where
  id := 12903
  name := "OPEN_DRONE_ID_SELF_ID"
  fields := [
    .single .u8 "target_system",
    .single .u8 "target_component",
    .array .u8 20 "id_or_mac",
    .enumerated .u8 mavOdidDescType "description_type",
    .array .char 23 "description"]

def openDroneIdSystem : MessageSpec where
  id := 12904
  name := "OPEN_DRONE_ID_SYSTEM"
  fields := [
    .single .u8 "target_system",
    .single .u8 "target_component",
    .array .u8 20 "id_or_mac",
    .enumerated .u8 mavOdidOperatorLocationType "operator_location_type",
    .enumerated .u8 mavOdidClassificationType "classification_type",
    .single .i32 "operator_latitude",
    .single .i32 "operator_longitude",
    .single .u16 "area_count",
    .single .u16 "area_radius",
    .single .f32 "area_ceiling",
    .single .f32 "area_floor",
    .enumerated .u8 mavOdidCategoryEu "category_eu",
    .enumerated .u8 mavOdidClassEu "class_eu",
    .single .f32 "operator_altitude_geo",
    .single .u32 "timestamp"]

def openDroneIdOperatorId : MessageSpec where
  id := 12905
  name := "OPEN_DRONE_ID_OPERATOR_ID"
  fields := [
    .single .u8 "target_system",
    .single .u8 "target_component",
    .array .u8 20 "id_or_mac",
    .enumerated .u8 mavOdidOperatorIdType "operator_id_type",
    .array .char 20 "operator_id"]

def openDroneIdMessagePack : MessageSpec where
  id := 12915
  name := "OPEN_DRONE_ID_MESSAGE_PACK"
  fields := [
    .single .u8 "target_system",
    .single .u8 "target_component",
    .array .u8 20 "id_or_mac",
    .single .u8 "single_message_size",
    .single .u8 "msg_pack_size",
    .array .u8 225 "messages"]

def openDroneIdArmStatus : MessageSpec where
  id := 12918
  name := "OPEN_DRONE_ID_ARM_STATUS"
  fields := [
    .enumerated .u8 mavOdidArmStatus "status",
    .array .char 50 "error"]

def openDroneIdSystemUpdate : MessageSpec where
  id := 12919
  name := "OPEN_DRONE_ID_SYSTEM_UPDATE"
  fields := [
    .single .u8 "target_system",
    .single .u8 "target_component",
    .single .i32 "operator_latitude",
    .single .i32 "operator_longitude",
    .single .f32 "operator_altitude_geo",
    .single .u32 "timestamp"]

def hygrometerSensor : MessageSpec where
  id := 12920
  name := "HYGROMETER_SENSOR"
  fields := [
    .single .u8 "id",
    .single .i16 "temperature",
    .single .u16 "humidity"]

end LinkTap.Mavlink.Dialect
