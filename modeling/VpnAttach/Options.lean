/-!
# Options of the command line
-/

namespace VpnAttach

/-- What is given on the command line. -/
structure Options where
  /-- The configuration file. -/
  config : String := "/etc/bgpvpn/bagpipe.toml"
  /-- A level of the log that takes the place of the configured one. -/
  logLevel : Option String := none
  /-- The file with the commands; without it they are read from the standard
  input. -/
  events : Option String := none
  deriving DecidableEq

namespace Options

/-- How the program is called. -/
def usage : String :=
  "usage: [-c CONFIG] [-l LEVEL] [EVENTS]"

/-- Reads the arguments behind those that are read already. -/
def read (options : Options) : List String → Except String Options
  | [] => .ok options
  | "-c" :: path :: args | "--config" :: path :: args =>
    { options with config := path }.read args
  | "-l" :: level :: args | "--log-level" :: level :: args =>
    { options with logLevel := some level }.read args
  | arg :: args =>
    if arg.startsWith "-" then .error ("unexpected argument: " ++ arg)
    else if options.events.isSome then .error ("superfluous argument: " ++ arg)
    else { options with events := some arg }.read args

/-- The options given by arguments. -/
def ofArgs (args : List String) : Except String Options :=
  read {} args

end Options
end VpnAttach
