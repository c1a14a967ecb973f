-- SUMMARY: The modules that are loaded before any application module: those of the logging system.
import Launcher.Import.State

/-!
# Provided modules

The modules of the logging system are there from the start, so that a logging configuration
can refer to their constants. They come from no search path and provide no submodules but
the ones that are there.
-/
namespace Launcher

/-- A module that is there from the start, with its constants. -/
def LoadedModule.provided (name : String) (isPackage : Bool) (constants : List (String × Json)) :
    LoadedModule :=
  let plain := LoadedModule.new name "" isPackage
  { plain with
    attributes := plain.attributes ++ constants.map fun (name, v) => (name, .plain v)
    locations := [] }

/-- The constants of the logging system. -/
def loggingConstants : List (String × Json) :=
  [("CRITICAL", .int 50), ("FATAL", .int 50), ("ERROR", .int 40), ("WARNING", .int 30),
    ("WARN", .int 30), ("INFO", .int 20), ("DEBUG", .int 10), ("NOTSET", .int 0),
    ("raiseExceptions", .bool true), ("logThreads", .bool true),
    ("logMultiprocessing", .bool true), ("logProcesses", .bool true),
    ("BASIC_FORMAT", .string "%(levelname)s:%(name)s:%(message)s")]

/-- The constants of the handlers of the logging system: ports, and the seconds of a day. -/
def handlerConstants : List (String × Json) :=
  [("DEFAULT_TCP_LOGGING_PORT", .int 9020), ("DEFAULT_UDP_LOGGING_PORT", .int 9021),
    ("DEFAULT_HTTP_LOGGING_PORT", .int 9022), ("DEFAULT_SOAP_LOGGING_PORT", .int 9023),
    ("SYSLOG_UDP_PORT", .int 514), ("SYSLOG_TCP_PORT", .int 514), ("_MIDNIGHT", .int 86400)]

/-- The constants of the configuration of logging. -/
def configurationConstants : List (String × Json) :=
  [("DEFAULT_LOGGING_CONFIG_PORT", .int 9030), ("RESET_ERROR", .int 104)]

namespace Imports

/-- The modules that are loaded before any other. -/
def provided : List (String × LoadedModule) :=
  [("logging", ((LoadedModule.provided "logging" true loggingConstants).bind
      "config" (.module "logging.config")).bind "handlers" (.module "logging.handlers")),
    ("logging.config", (LoadedModule.provided "logging.config" false configurationConstants).bind
      "logging" (.module "logging")),
    ("logging.handlers", (LoadedModule.provided "logging.handlers" false handlerConstants).bind
      "logging" (.module "logging"))]

/-- Imports before anything has been loaded or made active. -/
def initial : Imports := { modules := provided }

end Imports

end Launcher
