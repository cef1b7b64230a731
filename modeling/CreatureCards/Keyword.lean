/-!
# Keywords

Keywords printed on cards or granted by effects, with the names under which
card data lists them.  Status markers such as Frozen and Webbed are kept among
the keywords of a card.
-/

namespace CreatureCards

/-- A keyword of the game. -/
inductive Keyword where
  | haste
  | freePlay
  | hidden
  | lure
  | invisible
  | passive
  | barrier
  | acuity
  | immune
  | edible
  | inedible
  | scavenge
  | neurotoxic
  | neurotoxined
  | ambush
  | toxic
  | poisonous
  | harmless
  | frozen
  | paralyzed
  | pack
  | web
  | webbed
  | venom
  | pride
  | stalk
  | stalked
  | pounce
  | shell
  | molt
  deriving DecidableEq, Repr

namespace Keyword

def name : Keyword → String
  | haste => "Haste"
  | freePlay => "Free Play"
  | hidden => "Hidden"
  | lure => "Lure"
  | invisible => "Invisible"
  | passive => "Passive"
  | barrier => "Barrier"
  | acuity => "Acuity"
  | immune => "Immune"
  | edible => "Edible"
  | inedible => "Inedible"
  | scavenge => "Scavenge"
  | neurotoxic => "Neurotoxic"
  | neurotoxined => "Neurotoxined"
  | ambush => "Ambush"
  | toxic => "Toxic"
  | poisonous => "Poisonous"
  | harmless => "Harmless"
  | frozen => "Frozen"
  | paralyzed => "Paralyzed"
  | pack => "Pack"
  | web => "Web"
  | webbed => "Webbed"
  | venom => "Venom"
  | pride => "Pride"
  | stalk => "Stalk"
  | stalked => "Stalked"
  | pounce => "Pounce"
  | shell => "Shell"
  | molt => "Molt"

def all : List Keyword :=
  [.haste, .freePlay, .hidden, .lure, .invisible, .passive, .barrier, .acuity, .immune,
    .edible, .inedible, .scavenge, .neurotoxic, .neurotoxined, .ambush, .toxic, .poisonous,
    .harmless, .frozen, .paralyzed, .pack, .web, .webbed, .venom, .pride, .stalk, .stalked,
    .pounce, .shell, .molt]

end Keyword

end CreatureCards
