import CreatureCards.Proofs.PickedPlayer

/-!
# Shortcuts of options

An option may be given as an object of shortcuts.  The first of them that is set is turned
into the descriptor that it stands for, and the others are passed over.  Where none is
set, the object counts as a result already and is passed on as it is: amounts of zero, no
tokens at all, and a buff without a creature to receive it.  Healing and drawing go by the
same name on both sides, so only the other three leak what was authored.
-/

namespace CreatureCards

open Engine

/-- One thing that an option may be given as. -/
inductive OptionShortcut where
  | summonTokens
  | buff
  | heal
  | draw
  | damage
  deriving DecidableEq, Repr

namespace OptionShortcut

/-- In the order in which they are looked for. -/
def all : List OptionShortcut :=
  [summonTokens, buff, heal, draw, damage]

/-- The key under which it is authored. -/
def name : OptionShortcut → String
  | summonTokens => "summonTokens"
  | buff => "buff"
  | heal => "heal"
  | draw => "draw"
  | damage => "damage"

/-- The key under which it is asked for. -/
def key : OptionShortcut → String
  | summonTokens => "summon_tokens"
  | buff => "buff_creature"
  | heal => "heal"
  | draw => "draw"
  | damage => "damage_opponent"

/-- What may be authored: a token or a list of tokens, whole changes of attack and health,
or a whole amount. -/
def Fits : OptionShortcut → Value → Prop
  | summonTokens, .text _ => True
  | summonTokens, .list tokens => ∀ token ∈ tokens, ∃ id, token = .text id
  | buff, .object stats => ∀ part ∈ ["attack", "health"], ∀ change,
      stats.lookup part = some change →
      ∃ number, change = .int number
  | heal, .int _ | draw, .int _ | damage, .int _ => True
  | _, _ => False

/-- The object gives it something to do.  A buff needs a creature to receive it. -/
def isSet (context : Context) (fields : Fields) : OptionShortcut → Bool
  | buff => ((Value.object fields).get "buff").isTruthy && context.creature.isSome
  | shortcut => ((Value.object fields).get shortcut.name).isTruthy

/-- The shortcut whose turn it is. -/
def first (context : Context) (fields : Fields) : Option OptionShortcut :=
  all.find? (isSet context fields)

theorem name_injective : Function.Injective name := by
  intro shortcut other
  cases shortcut <;> cases other <;> decide

theorem mem_all (shortcut : OptionShortcut) : shortcut ∈ all := by
  cases shortcut <;> decide

theorem first_eq_none_iff {context : Context} {fields : Fields} :
    first context fields = none ↔ ∀ shortcut, isSet context fields shortcut = false := by
  simp only [first, List.find?_eq_none, mem_all, true_imp_iff, Bool.not_eq_true]

theorem first_eq (context : Context) (fields : Fields) :
    first context fields =
      if ((Value.object fields).get "summonTokens").isTruthy then some summonTokens
      else if ((Value.object fields).get "buff").isTruthy && context.creature.isSome then some buff
      else if ((Value.object fields).get "heal").isTruthy then some heal
      else if ((Value.object fields).get "draw").isTruthy then some draw
      else if ((Value.object fields).get "damage").isTruthy then some damage
      else none := by
  simp only [first, all, List.find?_cons, List.find?_nil, isSet, name]
  grind

/-- Nothing but shortcuts stands in the object. -/
def Authored (fields : Fields) : Prop :=
  ∀ field ∈ fields, ∃ shortcut : OptionShortcut, field.1 = shortcut.name ∧ shortcut.Fits field.2

/-- The keys of descriptors that options of shortcuts come to. -/
def keys : List String :=
  all.map key

/-- The names that are no keys of such descriptors. -/
def alienNames : List String :=
  [summonTokens, buff, damage].map name

theorem name_mem_keys_iff (shortcut : OptionShortcut) :
    shortcut.name ∈ keys ↔ shortcut.name ∉ alienNames := by
  cases shortcut <;> decide

theorem key_mem_keys (shortcut : OptionShortcut) : shortcut.key ∈ keys :=
  List.mem_map_of_mem (mem_all shortcut)

theorem key_not_mem_alienNames (shortcut : OptionShortcut) : shortcut.key ∉ alienNames := by
  cases shortcut <;> decide

/-- The object sets no shortcut, and a name stands in it that is no key of a descriptor. -/
def Leaks (context : Context) (fields : Fields) : Prop :=
  (∀ shortcut, isSet context fields shortcut = false) ∧
    ∃ name ∈ KeyedList.keys fields, name ∈ alienNames

namespace Authored

variable {fields : Fields}

/-- What stands under the name of a shortcut fits it. -/
theorem fits (authored : Authored fields) {shortcut : OptionShortcut} {value : Value}
    (found : fields.lookup shortcut.name = some value) : shortcut.Fits value := by
  obtain ⟨other, named, fits⟩ := authored _ (KeyedList.mem_of_lookup found)
  exact name_injective named ▸ fits

/-- A shortcut that has something to do was authored. -/
theorem fits_of_isTruthy (authored : Authored fields) (shortcut : OptionShortcut)
    (present : ((Value.object fields).get shortcut.name).isTruthy = true) :
    shortcut.Fits ((Value.object fields).get shortcut.name) := by
  change ((fields.lookup shortcut.name).getD .null).isTruthy = true at present
  change shortcut.Fits ((fields.lookup shortcut.name).getD .null)
  cases found : fields.lookup shortcut.name with
  | none =>
      rw [found] at present
      cases present
  | some value => exact authored.fits found

theorem mem_keys_iff (authored : Authored fields) {name : String}
    (stands : name ∈ KeyedList.keys fields) : name ∈ keys ↔ name ∉ alienNames := by
  obtain ⟨field, member, rfl⟩ := List.mem_map.1 stands
  obtain ⟨shortcut, named, -⟩ := authored field member
  rw [named]
  exact shortcut.name_mem_keys_iff

theorem get_type (authored : Authored fields) : (Value.object fields).get "type" = .null := by
  have absent : "type" ∉ KeyedList.keys fields := by
    intro member
    obtain ⟨field, stands, isType⟩ := List.mem_map.1 member
    obtain ⟨shortcut, named, -⟩ := authored field stands
    rw [isType] at named
    cases shortcut <;> exact absurd named (by decide)
  change (fields.lookup "type").getD .null = .null
  rw [KeyedList.lookup_eq_none_of_not_mem absent]
  rfl

end Authored

end OptionShortcut

namespace Effect

open OptionShortcut

variable {context : Context} {fields : Fields} {board : Board} {session : Session}

theorem summonTokens_of_fits {tokens : Value} (fits : OptionShortcut.summonTokens.Fits tokens)
    (present : tokens.isTruthy = true) :
    ∃ payload message, summonTokens tokens context board session =
      (.ok (.descriptor "summon_tokens" payload), session.telling [message]) := by
  have some : (tokensOf tokens).isEmpty = false := by
    cases tokens with
    | list items => simpa [Value.isTruthy, tokensOf] using present
    | text id => rfl
    | null | bool | int | float | object => exact fits.elim
  unfold summonTokens
  dsimp only
  rw [some]
  exact ⟨_, _, rfl⟩

/-- What is done for a shortcut that is set. -/
def spend (fields : Fields) : OptionShortcut → Effect
  | .summonTokens => summonTokens ((Value.object fields).get "summonTokens")
  | .buff => fun context =>
    match (Value.object fields).get "buff", context.creature with
    | .object stats, some creature =>
      gainStats ((stats.lookup "attack").getD (.int 0)) ((stats.lookup "health").getD (.int 0))
        creature
    | _, _ => throw .missingPart
  | .heal => heal ((Value.object fields).get "heal")
  | .draw => fun _ => do
    let cards := plural ((Value.object fields).get "draw") "card"
    announce s!"Draws {cards}."
    return .descriptor "draw" (.value ((Value.object fields).get "draw"))
  | .damage => damageRival ((Value.object fields).get "damage")

/-- The shortcut whose turn it is is spent, and an object that sets none is passed on. -/
theorem resolveOption_object (authored : Authored fields) (nested : Resolution) :
    resolveOption (.object fields) nested context =
      (first context fields).elim (return .record (Outcome.ofFields fields))
        fun shortcut => spend fields shortcut context := by
  unfold resolveOption
  dsimp only
  rw [authored.get_type, first_eq]
  cases fields with
  | nil => rfl
  | cons field rest =>
      rw [List.isEmpty_cons, if_neg Bool.false_ne_true]
      by_cases tokens : ((Value.object (field :: rest)).get "summonTokens").isTruthy = true
      · rw [if_pos tokens, if_pos tokens]
        rfl
      rw [if_neg tokens, if_neg tokens]
      by_cases buff : (((Value.object (field :: rest)).get "buff").isTruthy &&
          context.creature.isSome) = true
      · rw [if_pos buff, if_pos buff]
        rfl
      rw [if_neg buff, if_neg buff]
      by_cases heal : ((Value.object (field :: rest)).get "heal").isTruthy = true
      · rw [if_pos heal, if_pos heal]
        rfl
      rw [if_neg heal, if_neg heal]
      by_cases draw : ((Value.object (field :: rest)).get "draw").isTruthy = true
      · rw [if_pos draw, if_pos draw]
        rfl
      rw [if_neg draw, if_neg draw]
      by_cases damage : ((Value.object (field :: rest)).get "damage").isTruthy = true
      · rw [if_pos damage, if_pos damage]
        rfl
      rw [if_neg damage, if_neg damage]
      rfl

/-- A shortcut that is set becomes one descriptor. -/
theorem spend_of_isSet {shortcut : OptionShortcut} (authored : Authored fields)
    (set : isSet context fields shortcut = true) (board : Board) (session : Session) :
    ∃ payload message, spend fields shortcut context board session =
      (.ok (.descriptor shortcut.key payload), session.telling [message]) := by
  cases shortcut with
  | summonTokens => exact summonTokens_of_fits (authored.fits_of_isTruthy .summonTokens set) set
  | buff =>
      obtain ⟨present, hasCreature⟩ := Bool.and_eq_true_iff.1 set
      obtain ⟨creature, acts⟩ := Option.isSome_iff_exists.1 hasCreature
      have fits := authored.fits_of_isTruthy .buff present
      unfold spend
      dsimp only
      rw [acts]
      change OptionShortcut.buff.Fits ((Value.object fields).get "buff") at fits
      cases stats : (Value.object fields).get "buff" with
      | object parts => exact ⟨_, _, rfl⟩
      | null | bool | int | float | text | list =>
          rw [stats] at fits
          exact fits.elim
  | heal | draw | damage => exact ⟨_, _, rfl⟩

/-- The descriptor of the first shortcut that is set, or what was authored. -/
theorem resolveOption_of_authored (authored : Authored fields) (nested : Resolution)
    (context : Context) (board : Board) (session : Session) :
    ∃ descriptors messages, resolveOption (.object fields) nested context board session =
        (.ok (.record descriptors), session.telling messages) ∧
      KeyedList.keys descriptors =
        (first context fields).elim (KeyedList.keys fields) fun shortcut => [shortcut.key] := by
  rw [resolveOption_object authored]
  cases turn : first context fields with
  | none =>
      refine ⟨Outcome.ofFields fields, [], ?_, Outcome.keys_ofFields fields⟩
      rw [session.telling_nil]
      rfl
  | some shortcut =>
      obtain ⟨payload, message, spent⟩ :=
        spend_of_isSet authored (List.find?_some turn) board session
      exact ⟨_, _, spent, rfl⟩

end Effect

/-- An option of shortcuts never breaks off, and what it comes to has the keys of descriptors
unless the object sets none of its shortcuts and a name stands in it that is no key of a
descriptor: then, and only then, an authored name is among the keys. -/
theorem option_shortcuts_leak_iff {fields : Fields} (authored : OptionShortcut.Authored fields)
    (nested : Resolution) (context : Context) (board : Board) (session : Session) :
    ∃ descriptors messages, Effect.resolveOption (.object fields) nested context board session =
        (.ok (.record descriptors), session.telling messages) ∧
      ((∀ key ∈ KeyedList.keys descriptors, key ∈ OptionShortcut.keys) ↔
        ¬ OptionShortcut.Leaks context fields) ∧
      ((∃ key ∈ KeyedList.keys descriptors, key ∈ OptionShortcut.alienNames) ↔
        OptionShortcut.Leaks context fields) := by
  obtain ⟨descriptors, messages, run, keys⟩ :=
    Effect.resolveOption_of_authored authored nested context board session
  refine ⟨descriptors, messages, run, ?_⟩
  rw [keys]
  cases turn : OptionShortcut.first context fields with
  | none =>
      have unset := OptionShortcut.first_eq_none_iff.1 turn
      have leaks : OptionShortcut.Leaks context fields ↔
          ∃ name ∈ KeyedList.keys fields, name ∈ OptionShortcut.alienNames := and_iff_right unset
      refine ⟨?_, leaks.symm⟩
      rw [leaks, Option.elim_none]
      push Not
      exact forall₂_congr fun name stands => authored.mem_keys_iff stands
  | some shortcut =>
      have spent : ¬ OptionShortcut.Leaks context fields := fun leaks =>
        absurd (List.find?_some turn) (ne_true_of_eq_false (leaks.1 shortcut))
      refine ⟨iff_of_true ?_ spent, iff_of_false ?_ spent⟩
      · exact List.forall_mem_singleton.2 shortcut.key_mem_keys
      · rintro ⟨key, isKey, alien⟩
        rw [List.mem_singleton.1 isKey] at alien
        exact shortcut.key_not_mem_alienNames alien

/-- A buff leaks that no creature receives. -/
theorem unreceived_buff_leaks :
    OptionShortcut.Authored [("buff", .object [("attack", .int 2)]), ("heal", .int 0)] ∧
      ∃ descriptors messages,
        Effect.resolveOption (.object [("buff", .object [("attack", .int 2)]), ("heal", .int 0)])
            (fun _ _ => pure .nothing) duel touchyBoard (default : Moment).session =
          (.ok (.record descriptors), (default : Moment).session.telling messages) ∧
        ∃ key ∈ KeyedList.keys descriptors, key ∈ OptionShortcut.alienNames := by
  have authored :
      OptionShortcut.Authored [("buff", .object [("attack", .int 2)]), ("heal", .int 0)] := by
    refine List.forall_mem_cons.2
      ⟨⟨.buff, rfl, ?_⟩, List.forall_mem_singleton.2 ⟨.heal, rfl, trivial⟩⟩
    refine List.forall_mem_cons.2
      ⟨fun change found => ?_, List.forall_mem_singleton.2 fun _ absent => ?_⟩
    · cases found
      exact ⟨2, rfl⟩
    · cases absent
  obtain ⟨descriptors, messages, run, -, leaks⟩ := option_shortcuts_leak_iff authored
    (fun _ _ => pure .nothing) duel touchyBoard (default : Moment).session
  exact ⟨authored, descriptors, messages, run,
    leaks.2 ⟨by intro shortcut; cases shortcut <;> rfl, "buff", by decide, by decide⟩⟩

/-- No amount of damage comes to what was authored, not to a descriptor. -/
theorem no_damage_leaks :
    ¬ ∀ fields, OptionShortcut.Authored fields → ∀ nested context board session,
      ∃ descriptors after, Effect.resolveOption (.object fields) nested context board session =
          (.ok (.record descriptors), after) ∧
        (∀ key ∈ KeyedList.keys descriptors, key ∈ OptionShortcut.keys) ∧
        ∀ key ∈ KeyedList.keys descriptors, key ∉ OptionShortcut.alienNames := by
  intro claimed
  have authored : OptionShortcut.Authored [("damage", .int 0)] :=
    List.forall_mem_singleton.2 ⟨.damage, rfl, trivial⟩
  obtain ⟨descriptors, after, run, -, clean⟩ := claimed _ authored (fun _ _ => pure .nothing) duel
    touchyBoard (default : Moment).session
  have passedOn :
      Effect.resolveOption (.object [("damage", .int 0)]) (fun _ _ => pure .nothing) duel
      touchyBoard (default : Moment).session =
        (.ok (.record [("damage", .value (.int 0))]), (default : Moment).session) := rfl
  rw [passedOn] at run
  cases run
  exact clean "damage" (by decide) (by decide)

end CreatureCards
