import CreatureCards.ValueText

/-!
# Warnings

What the engine reports to card authors while it goes on: definitions it could
not use and card effects that broke off.  Only two reasons for which parameters
do not bind are spelled out in the report.
-/

namespace CreatureCards

/-- Why a definition cannot be used although its type may be known. -/
inductive Malformation where
  /-- It is neither an object nor a list. -/
  | notDefinition (kind : String)
  /-- Its parameters break a rule that the report spells out. -/
  | breaksRule (type : String) (rule : String)
  /-- Its parameters do not fit the effect. -/
  | unfit (type : String)
  deriving DecidableEq, Repr

namespace Malformation

/-- The report of a malformed definition. -/
def text : Malformation → String
  | notDefinition kind =>
    s!"Malformed effect: definition must be an object or a list, got {kind}"
  | breaksRule type rule => "Malformed " ++ quoted type ++ " effect: " ++ rule
  | unfit type => "Malformed " ++ quoted type ++ " effect"

end Malformation

/-- What the engine reports while it goes on. -/
inductive Warning where
  /-- A definition names no known effect type. -/
  | unknownEffect (type : Value)
  | malformed (cause : Malformation)
  /-- A count has a name that stands for nothing. -/
  | unknownCount (count : Value)
  /-- A selection names no known target group. -/
  | unknownGroup (group : Value)
  /-- A card's trigger holds something that is no definition. -/
  | invalidCardEffect (card trigger : String) (definition : Value)
  /-- The effect of a card broke off. -/
  | cardEffectFailed (card trigger : String)

namespace Warning

/-- The report with its severity. -/
def text : Warning → String
  | unknownEffect type => "WARNING: Unknown effect type: " ++ type.quotedForm
  | malformed cause => "WARNING: " ++ cause.text
  | unknownCount count => "WARNING: Unknown dynamic count: " ++ count.quotedForm
  | unknownGroup group => "WARNING: Unknown target group: " ++ group.quotedForm
  | invalidCardEffect card trigger definition =>
    s!"WARNING: Invalid effect definition for {card} {trigger}: " ++ definition.quotedForm
  | cardEffectFailed card trigger => s!"ERROR: Effect handler error: {card} {trigger}"

end Warning

end CreatureCards
