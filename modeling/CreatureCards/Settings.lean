import CreatureCards.LetterCase

/-!
# Settings

Tunables shared by the resolver and the effects.
-/

namespace CreatureCards

/-- Tunables of a resolver. -/
structure Settings where
  /-- Refuse unknown and malformed definitions instead of warning. -/
  strict : Bool := false
  /-- Most cards that an effect drawing one card per creature draws. -/
  maxScaledDraw : Int := 3
  /-- How long a revealed hand stays visible, in milliseconds. -/
  revealHandDuration : Int := 3000
  deriving DecidableEq, Repr, Inhabited

namespace Settings

/-- Texts that switch a setting on, in any letter case. -/
def affirmatives : List String := ["1", "true", "yes", "on"]

/-- The settings of an environment that names the strictness. -/
def ofEnvironment (strictness : String) : Settings :=
  { strict := affirmatives.contains (lowerCase strictness) }

end Settings

/-- Severities under which messages of the engine are recorded. -/
inductive LogLevel where
  | notSet
  | debug
  | info
  | warning
  | error
  | critical
  deriving DecidableEq, Repr

namespace LogLevel

def all : List LogLevel := [.notSet, .debug, .info, .warning, .error, .critical]

def rank : LogLevel → Nat
  | notSet => 0
  | debug => 10
  | info => 20
  | warning => 30
  | error => 40
  | critical => 50

/-- The names of a severity, in capitals. -/
def names : LogLevel → List String
  | notSet => ["NOTSET"]
  | debug => ["DEBUG"]
  | info => ["INFO"]
  | warning => ["WARNING", "WARN"]
  | error => ["ERROR"]
  | critical => ["CRITICAL", "FATAL"]

/-- The severity of this name in any letter case; the usual one if the name is
empty. -/
def ofName? (name : String) : Option LogLevel :=
  if name == "" then some .warning
  else all.find? fun level => level.names.contains (upperCase name)

end LogLevel

end CreatureCards
