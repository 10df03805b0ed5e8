/-!
Severities of log records, in rising order, and their names. Names are read without regard to case;
among the characters outside ASCII only the dotless i has an upper-case form that a name uses.
-/
namespace ContainerLogs

inductive Severity where
  | debug | info | warning | error | critical
  deriving DecidableEq, Repr

namespace Severity

def rank : Severity → Nat
  | debug => 10 | info => 20 | warning => 30 | error => 40 | critical => 50

def name : Severity → String
  | debug => "DEBUG" | info => "INFO" | warning => "WARNING" | error => "ERROR"
  | critical => "CRITICAL"

/-- The severities a threshold may be set to. -/
def thresholds : List Severity := [debug, info, warning, error]

def all : List Severity := thresholds ++ [critical]

def ofName? (text : String) : Option Severity := all.find? (·.name = text)

def upperChar (c : Char) : Char := if c.toNat = 0x131 then 'I' else c.toUpper

def threshold? (text : String) : Option Severity :=
  thresholds.find? (·.name = String.ofList (text.toList.map upperChar))

end Severity

end ContainerLogs
