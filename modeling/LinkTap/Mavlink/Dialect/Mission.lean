import LinkTap.Mavlink.Dialect.Commands
import LinkTap.Mavlink.Dialect.Enums

/-!
# Messages: missions

Mission transfer, mission items, the current item, origins and safety areas.
-/

set_option autoImplicit false

namespace LinkTap.Mavlink.Dialect

def missionRequestPartialList : MessageSpec where
  id := 37
  name := "MISSION_REQUEST_PARTIAL_LIST"
  fields := [
    .single .u8 "target_system",
    .single .u8 "target_component",
    .single .i16 "start_index",
    .single .i16 "end_index"]

def missionWritePartialList : MessageSpec where
  id := 38
  name := "MISSION_WRITE_PARTIAL_LIST"
  fields := [
    .single .u8 "target_system",
    .single .u8 "target_component",
    .single .i16 "start_index",
    .single .i16 "end_index"]

def missionItem : MessageSpec where
  id := 39
  name := "MISSION_ITEM"
  fields := [
    .single .u8 "target_system",
    .single .u8 "target_component",
    .single .u16 "seq",
    .enumerated .u8 mavFrame "frame",
    .enumerated .u16 mavCmd "command",
    .single .u8 "current",
    .single .u8 "autocontinue",
    .single .f32 "param1",
    .single .f32 "param2",
    .single .f32 "param3",
    .single .f32 "param4",
    .single .f32 "x",
    .single .f32 "y",
    .single .f32 "z"]

def missionRequest : MessageSpec where
  id := 40
  name := "MISSION_REQUEST"
  fields := [
    .single .u8 "target_system",
    .single .u8 "target_component",
    .single .u16 "seq"]

def missionSetCurrent : MessageSpec where
  id := 41
  name := "MISSION_SET_CURRENT"
  fields := [
    .single .u8 "target_system",
    .single .u8 "target_component",
    .single .u16 "seq"]

def missionCurrent : MessageSpec where
  id := 42
  name := "MISSION_CURRENT"
  fields := [
    .single .u16 "seq"]

def missionRequestList : MessageSpec where
  id := 43
  name := "MISSION_REQUEST_LIST"
  fields := [
    .single .u8 "target_system",
    .single .u8 "target_component"]

def missionCount : MessageSpec where
  id := 44
  name := "MISSION_COUNT"
  fields := [
    .single .u8 "target_system",
    .single .u8 "target_component",
    .single .u16 "count"]

def missionClearAll : MessageSpec where
  id := 45
  name := "MISSION_CLEAR_ALL"
  fields := [
    .single .u8 "target_system",
    .single .u8 "target_component"]

def missionItemReached : MessageSpec where
  id := 46
  name := "MISSION_ITEM_REACHED"
  fields := [
    .single .u16 "seq"]

def missionAck : MessageSpec where
  id := 47
  name := "MISSION_ACK"
  fields := [
    .single .u8 "target_system",
    .single .u8 "target_component",
    .enumerated .u8 mavMissionResult "type"]

def setGpsGlobalOrigin : MessageSpec where
  id := 48
  name := "SET_GPS_GLOBAL_ORIGIN"
  fields := [
    .single .u8 "target_system",
    .single .i32 "latitude",
    .single .i32 "longitude",
    .single .i32 "altitude"]

def gpsGlobalOrigin : MessageSpec where
  id := 49
  name := "GPS_GLOBAL_ORIGIN"
  fields := [
    .single .i32 "latitude",
    .single .i32 "longitude",
    .single .i32 "altitude"]

def paramMapRc : MessageSpec where
  id := 50
  name := "PARAM_MAP_RC"
  fields := [
    .single .u8 "target_system",
    .single .u8 "target_component",
    .array .char 16 "param_id",
    .single .i16 "param_index",
    .single .u8 "parameter_rc_channel_index",
    .single .f32 "param_value0",
    .single .f32 "scale",
    .single .f32 "param_value_min",
    .single .f32 "param_value_max"]

def missionRequestInt : MessageSpec where
  id := 51
  name := "MISSION_REQUEST_INT"
  fields := [
    .single .u8 "target_system",
    .single .u8 "target_component",
    .single .u16 "seq"]

def safetySetAllowedArea : MessageSpec where
  id := 54
  name := "SAFETY_SET_ALLOWED_AREA"
  fields := [
    .single .u8 "target_system",
    .single .u8 "target_component",
    .enumerated .u8 mavFrame "frame",
    .single .f32 "p1x",
    .single .f32 "p1y",
    .single .f32 "p1z",
    .single .f32 "p2x",
    .single .f32 "p2y",
    .single .f32 "p2z"]

def safetyAllowedArea : MessageSpec where
  id := 55
  name := "SAFETY_ALLOWED_AREA"
  fields := [
    .enumerated .u8 mavFrame "frame",
    .single .f32 "p1x",
    .single .f32 "p1y",
    .single .f32 "p1z",
    .single .f32 "p2x",
    .single .f32 "p2y",
    .single .f32 "p2z"]

end LinkTap.Mavlink.Dialect
