/-! # Dictionaries

A dictionary gives keys their values. It keeps the keys in the order in which they were first given
one: a key that is there keeps its place when its value changes, and a new key goes behind all
others.
-/

namespace KeyChords

/-- **A dictionary**: its keys with their values, in order. -/
abbrev Dict (κ ν : Type) := List (κ × ν)

namespace Dict

variable {κ ν : Type}

/-- The keys of a dictionary, in order. -/
def keys (dict : Dict κ ν) : List κ :=
  dict.map Prod.fst

variable [DecidableEq κ]

/-- The value of a key, if it has one. -/
def get? (key : κ) (dict : Dict κ ν) : Option ν :=
  List.lookup key dict

/-- Changes the value of a key, which a new key does not have yet. -/
def update (key : κ) (change : Option ν → ν) : Dict κ ν → Dict κ ν
  | [] => [(key, change none)]
  | (other, held) :: rest =>
    if other = key then (key, change (some held)) :: rest
    else (other, held) :: update key change rest

/-- Gives a key a value. -/
def put (key : κ) (value : ν) (dict : Dict κ ν) : Dict κ ν :=
  dict.update key fun _ => value

/-- Gives a key a value unless it has one. -/
def putNew (key : κ) (value : ν) (dict : Dict κ ν) : Dict κ ν :=
  dict.update key fun held => held.getD value

end Dict

end KeyChords
