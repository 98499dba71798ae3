import LinkTap.Mavlink.Dialect.Enums
import LinkTap.Mavlink.Dialect.Flags

/-!
# Messages: cameras and gimbals

Camera information, settings, storage, captures, video streams, tracking and gimbal
managers and devices.
-/

set_option autoImplicit false

namespace LinkTap.Mavlink.Dialect

def cameraInformation : MessageSpec where
  id := 259
  name := "CAMERA_INFORMATION"
  fields := [
    .single .u32 "time_boot_ms",
    .array .u8 32 "vendor_name",
    .array .u8 32 "model_name",
    .single .u32 "firmware_version",
    .single .f32 "focal_length",
    .single .f32 "sensor_size_h",
    .single .f32 "sensor_size_v",
    .single .u16 "resolution_h",
    .single .u16 "resolution_v",
    .single .u8 "lens_id",
    .flags .u32 cameraCapFlags "flags",
    .single .u16 "cam_definition_version",
    .array .char 140 "cam_definition_uri"]

def cameraSettings : MessageSpec where
  id := 260
  name := "CAMERA_SETTINGS"
  fields := [
    .single .u32 "time_boot_ms",
    .enumerated .u8 cameraMode "mode_id"]

def storageInformation : MessageSpec where
  id := 261
  name := "STORAGE_INFORMATION"
  fields := [
    .single .u32 "time_boot_ms",
    .single .u8 "storage_id",
    .single .u8 "storage_count",
    .enumerated .u8 storageStatus "status",
    .single .f32 "total_capacity",
    .single .f32 "used_capacity",
    .single .f32 "available_capacity",
    .single .f32 "read_speed",
    .single .f32 "write_speed"]

def cameraCaptureStatus : MessageSpec where
  id := 262
  name := "CAMERA_CAPTURE_STATUS"
  fields := [
    .single .u32 "time_boot_ms",
    .single .u8 "image_status",
    .single .u8 "video_status",
    .single .f32 "image_interval",
    .single .u32 "recording_time_ms",
    .single .f32 "available_capacity"]

def cameraImageCaptured : MessageSpec where
  id := 263
  name := "CAMERA_IMAGE_CAPTURED"
  fields := [
    .single .u32 "time_boot_ms",
    .single .u64 "time_utc",
    .single .u8 "camera_id",
    .single .i32 "lat",
    .single .i32 "lon",
    .single .i32 "alt",
    .single .i32 "relative_alt",
    .array .f32 4 "q",
    .single .i32 "image_index",
    .single .i8 "capture_result",
    .array .char 205 "file_url"]

def flightInformation : MessageSpec where
  id := 264
  name := "FLIGHT_INFORMATION"
  fields := [
    .single .u32 "time_boot_ms",
    .single .u64 "arming_time_utc",
    .single .u64 "takeoff_time_utc",
    .single .u64 "flight_uuid"]

def mountOrientation : MessageSpec where
  id := 265
  name := "MOUNT_ORIENTATION"
  fields := [
    .single .u32 "time_boot_ms",
    .single .f32 "roll",
    .single .f32 "pitch",
    .single .f32 "yaw"]

def loggingData : MessageSpec where
  id := 266
  name := "LOGGING_DATA"
  fields := [
    .single .u8 "target_system",
    .single .u8 "target_component",
    .single .u16 "sequence",
    .single .u8 "length",
    .single .u8 "first_message_offset",
    .array .u8 249 "data"]

def loggingDataAcked : MessageSpec where
  id := 267
  name := "LOGGING_DATA_ACKED"
  fields := [
    .single .u8 "target_system",
    .single .u8 "target_component",
    .single .u16 "sequence",
    .single .u8 "length",
    .single .u8 "first_message_offset",
    .array .u8 249 "data"]

def loggingAck : MessageSpec where
  id := 268
  name := "LOGGING_ACK"
  fields := [
    .single .u8 "target_system",
    .single .u8 "target_component",
    .single .u16 "sequence"]

def videoStreamInformation : MessageSpec where
  id := 269
  name := "VIDEO_STREAM_INFORMATION"
  fields := [
    .single .u8 "stream_id",
    .single .u8 "count",
    .enumerated .u8 videoStreamType "type",
    .flags .u16 videoStreamStatusFlags "flags",
    .single .f32 "framerate",
    .single .u16 "resolution_h",
    .single .u16 "resolution_v",
    .single .u32 "bitrate",
    .single .u16 "rotation",
    .single .u16 "hfov",
    .array .char 32 "name",
    .array .char 160 "uri"]

def videoStreamStatus : MessageSpec where
  id := 270
  name := "VIDEO_STREAM_STATUS"
  fields := [
    .single .u8 "stream_id",
    .flags .u16 videoStreamStatusFlags "flags",
    .single .f32 "framerate",
    .single .u16 "resolution_h",
    .single .u16 "resolution_v",
    .single .u32 "bitrate",
    .single .u16 "rotation",
    .single .u16 "hfov"]

def cameraFovStatus : MessageSpec where
  id := 271
  name := "CAMERA_FOV_STATUS"
  fields := [
    .single .u32 "time_boot_ms",
    .single .i32 "lat_camera",
    .single .i32 "lon_camera",
    .single .i32 "alt_camera",
    .single .i32 "lat_image",
    .single .i32 "lon_image",
    .single .i32 "alt_image",
    .array .f32 4 "q",
    .single .f32 "hfov",
    .single .f32 "vfov"]

def cameraTrackingImageStatus : MessageSpec where
  id := 275
  name := "CAMERA_TRACKING_IMAGE_STATUS"
  fields := [
    .enumerated .u8 cameraTrackingStatusFlags "tracking_status",
    .enumerated .u8 cameraTrackingMode "tracking_mode",
    .flags .u8 cameraTrackingTargetData "target_data",
    .single .f32 "point_x",
    .single .f32 "point_y",
    .single .f32 "radius",
    .single .f32 "rec_top_x",
    .single .f32 "rec_top_y",
    .single .f32 "rec_bottom_x",
    .single .f32 "rec_bottom_y"]

def cameraTrackingGeoStatus : MessageSpec where
  id := 276
  name := "CAMERA_TRACKING_GEO_STATUS"
  fields := [
    .enumerated .u8 cameraTrackingStatusFlags "tracking_status",
    .single .i32 "lat",
    .single .i32 "lon",
    .single .f32 "alt",
    .single .f32 "h_acc",
    .single .f32 "v_acc",
    .single .f32 "vel_n",
    .single .f32 "vel_e",
    .single .f32 "vel_d",
    .single .f32 "vel_acc",
    .single .f32 "dist",
    .single .f32 "hdg",
    .single .f32 "hdg_acc"]

def gimbalManagerInformation : MessageSpec where
  id := 280
  name := "GIMBAL_MANAGER_INFORMATION"
  fields := [
    .single .u32 "time_boot_ms",
    .flags .u32 gimbalManagerCapFlags "cap_flags",
    .single .u8 "gimbal_device_id",
    .single .f32 "roll_min",
    .single .f32 "roll_max",
    .single .f32 "pitch_min",
    .single .f32 "pitch_max",
    .single .f32 "yaw_min",
    .single .f32 "yaw_max"]

def gimbalManagerStatus : MessageSpec where
  id := 281
  name := "GIMBAL_MANAGER_STATUS"
  fields := [
    .single .u32 "time_boot_ms",
    .flags .u32 gimbalManagerFlags "flags",
    .single .u8 "gimbal_device_id",
    .single .u8 "primary_control_sysid",
    .single .u8 "primary_control_compid",
    .single .u8 "secondary_control_sysid",
    .single .u8 "secondary_control_compid"]

def gimbalManagerSetAttitude : MessageSpec where
  id := 282
  name := "GIMBAL_MANAGER_SET_ATTITUDE"
  fields := [
    .single .u8 "target_system",
    .single .u8 "target_component",
    .flags .u32 gimbalManagerFlags "flags",
    .single .u8 "gimbal_device_id",
    .array .f32 4 "q",
    .single .f32 "angular_velocity_x",
    .single .f32 "angular_velocity_y",
    .single .f32 "angular_velocity_z"]

def gimbalDeviceInformation : MessageSpec where
  id := 283
  name := "GIMBAL_DEVICE_INFORMATION"
  fields := [
    .single .u32 "time_boot_ms",
    .array .char 32 "vendor_name",
    .array .char 32 "model_name",
    .array .char 32 "custom_name",
    .single .u32 "firmware_version",
    .single .u32 "hardware_version",
    .single .u64 "uid",
    .flags .u16 gimbalDeviceCapFlags "cap_flags",
    .single .u16 "custom_cap_flags",
    .single .f32 "roll_min",
    .single .f32 "roll_max",
    .single .f32 "pitch_min",
    .single .f32 "pitch_max",
    .single .f32 "yaw_min",
    .single .f32 "yaw_max"]

def gimbalDeviceSetAttitude : MessageSpec where
  id := 284
  name := "GIMBAL_DEVICE_SET_ATTITUDE"
  fields := [
    .single .u8 "target_system",
    .single .u8 "target_component",
    .flags .u16 gimbalDeviceFlags "flags",
    .array .f32 4 "q",
    .single .f32 "angular_velocity_x",
    .single .f32 "angular_velocity_y",
    .single .f32 "angular_velocity_z"]

def gimbalDeviceAttitudeStatus : MessageSpec where
  id := 285
  name := "GIMBAL_DEVICE_ATTITUDE_STATUS"
  fields := [
    .single .u8 "target_system",
    .single .u8 "target_component",
    .single .u32 "time_boot_ms",
    .flags .u16 gimbalDeviceFlags "flags",
    .array .f32 4 "q",
    .single .f32 "angular_velocity_x",
    .single .f32 "angular_velocity_y",
    .single .f32 "angular_velocity_z",
    .flags .u32 gimbalDeviceErrorFlags "failure_flags"]

def autopilotStateForGimbalDevice : MessageSpec where
  id := 286
  name := "AUTOPILOT_STATE_FOR_GIMBAL_DEVICE"
  fields := [
    .single .u8 "target_system",
    .single .u8 "target_component",
    .single .u64 "time_boot_us",
    .array .f32 4 "q",
    .single .u32 "q_estimated_delay_us",
    .single .f32 "vx",
    .single .f32 "vy",
    .single .f32 "vz",
    .single .u32 "v_estimated_delay_us",
    .single .f32 "feed_forward_angular_velocity_z",
    .flags .u16 estimatorStatusFlags "estimator_status",
    .enumerated .u8 mavLandedState "landed_state"]

def gimbalManagerSetPitchyaw : MessageSpec where
  id := 287
  name := "GIMBAL_MANAGER_SET_PITCHYAW"
  fields := [
    .single .u8 "target_system",
    .single .u8 "target_component",
    .flags .u32 gimbalManagerFlags "flags",
    .single .u8 "gimbal_device_id",
    .single .f32 "pitch",
    .single .f32 "yaw",
    .single .f32 "pitch_rate",
    .single .f32 "yaw_rate"]

def gimbalManagerSetManualControl : MessageSpec where
  id := 288
  name := "GIMBAL_MANAGER_SET_MANUAL_CONTROL"
  fields := [
    .single .u8 "target_system",
    .single .u8 "target_component",
    .flags .u32 gimbalManagerFlags "flags",
    .single .u8 "gimbal_device_id",
    .single .f32 "pitch",
    .single .f32 "yaw",
    .single .f32 "pitch_rate",
    .single .f32 "yaw_rate"]

end LinkTap.Mavlink.Dialect
