/-!
Log records: a level of importance and a message.
-/
namespace StateFlow

namespace Log

inductive Level where
  | debug
  | info
  | warning
  | error
  | critical
  deriving DecidableEq

def Level.name : Level → String
  | .debug => "DEBUG"
  | .info => "INFO"
  | .warning => "WARNING"
  | .error => "ERROR"
  | .critical => "CRITICAL"

def Level.rank : Level → Nat
  | .debug => 10
  | .info => 20
  | .warning => 30
  | .error => 40
  | .critical => 50

structure Record where
  level : Level
  message : String

def Record.debug (message : String) : Record := ⟨.debug, message⟩
def Record.info (message : String) : Record := ⟨.info, message⟩
def Record.error (message : String) : Record := ⟨.error, message⟩

end Log

end StateFlow
