/-!
# Names of the controller protocol

The controller names every piece of equipment by an object name (`objnam`) and describes it
by parameters: its object type (`OBJTYP`), subtype, display name (`SNAME`), status and
readings. This module holds the names that the monitor relies on.
-/

namespace PoolMonitor.Wire

/-- The response code of a request that succeeded. -/
def responseOk : String := "200"

/-- The object name that asks for every object. -/
def allObjects : String := "INCR"

/-- The object name of the controller itself. -/
def systemObject : String := "_5451"

/-- The prefix of object names of features (circuits shown as features). -/
def featurePrefix : String := "FTR"

/-! ### Commands -/
namespace Command
def getParamList : String := "GetParamList"
def requestParamList : String := "RequestParamList"
def sendParamList : String := "SendParamList"
def notifyList : String := "NotifyList"
end Command

/-! ### Object types -/
namespace ObjType
def body : String := "BODY"
def heater : String := "HEATER"
def pump : String := "PUMP"
def circuit : String := "CIRCUIT"
def sensor : String := "SENSE"
def system : String := "SYSTEM"
end ObjType

/-! ### Object subtypes -/
namespace SubType
def air : String := "AIR"
def solar : String := "SOLAR"
end SubType

/-! ### Parameter keys -/
namespace Key
def objtyp : String := "OBJTYP"
def subtyp : String := "SUBTYP"
def sname : String := "SNAME"
def status : String := "STATUS"
def temp : String := "TEMP"
def probe : String := "PROBE"
def htmode : String := "HTMODE"
def htsrc : String := "HTSRC"
def lotmp : String := "LOTMP"
def hitmp : String := "HITMP"
def rpm : String := "RPM"
def gpm : String := "GPM"
def watts : String := "WATTS"
def freeze : String := "FREEZE"
def shomnu : String := "SHOMNU"
end Key

end PoolMonitor.Wire
