/-!
# SqlTemplate.Regex.Flag

The inline flags of a pattern. A change switches some of them on and others off; the flags in
force decide what the pattern means.
-/

namespace SqlTemplate.Regex

inductive Flag where
  | caseInsensitive | multiLine | dotMatchesNewline | swapGreed | unicode | crlf | verbose
deriving DecidableEq, Repr

def Flag.ofLetter? : Char → Option Flag
  | 'i' => some .caseInsensitive
  | 'm' => some .multiLine
  | 's' => some .dotMatchesNewline
  | 'U' => some .swapGreed
  | 'u' => some .unicode
  | 'R' => some .crlf
  | 'x' => some .verbose
  | _ => none

structure FlagChange where
  on : List Flag := []
  off : List Flag := []
deriving DecidableEq, Repr

namespace FlagChange

def isEmpty (change : FlagChange) : Bool :=
  change.on.isEmpty && change.off.isEmpty

def mentions (change : FlagChange) (flag : Flag) : Bool :=
  change.on.contains flag || change.off.contains flag

/-- The value of a flag after the change, from its value before. -/
def apply (change : FlagChange) (flag : Flag) (before : Bool) : Bool :=
  if change.on.contains flag then true
  else if change.off.contains flag then false
  else before

/-- Reads flag letters up to the colon or parenthesis that ends them, which is answered with what
follows it. Letters after the one hyphen are switched off; no letter comes twice, and the hyphen
has a letter after it. -/
def readFrom (change : FlagChange) (negated dangling : Bool) :
    List Char → Option (FlagChange × Char × List Char)
  | [] => none
  | c :: rest =>
    if c = ':' ∨ c = ')' then
      if dangling then none else some (change, c, rest)
    else if c = '-' then
      if negated then none else readFrom change true true rest
    else
      match Flag.ofLetter? c with
      | none => none
      | some flag =>
        if change.mentions flag then none
        else if negated then readFrom { change with off := flag :: change.off } true false rest
        else readFrom { change with on := flag :: change.on } false false rest

def read (cs : List Char) : Option (FlagChange × Char × List Char) :=
  readFrom {} false false cs

theorem apply_empty (flag : Flag) (before : Bool) : apply {} flag before = before := rfl

theorem length_lt_of_readFrom {change : FlagChange} {negated dangling : Bool} {cs : List Char}
    {result : FlagChange} {last : Char} {rest : List Char}
    (h : readFrom change negated dangling cs = some (result, last, rest)) :
    rest.length < cs.length := by
  fun_induction readFrom change negated dangling cs with
  | case1 => cases h
  | case2 => cases h
  | case3 => cases h; simp
  | case4 => cases h
  | case5 _ _ _ _ _ _ ih => exact Nat.lt_succ_of_lt (ih h)
  | case6 => cases h
  | case7 => cases h
  | case8 _ _ _ _ _ _ _ _ _ ih => exact Nat.lt_succ_of_lt (ih h)
  | case9 _ _ _ _ _ _ _ _ _ _ _ ih => exact Nat.lt_succ_of_lt (ih h)

end FlagChange

/-- The flags that bear on meaning. Verbose mode bears on reading only, and swapped greed has no
bearing on whether there is a match. -/
structure Flags where
  caseInsensitive : Bool := false
  multiLine : Bool := false
  dotMatchesNewline : Bool := false
  unicode : Bool := true
  crlf : Bool := false
deriving DecidableEq, Repr

def Flags.change (flags : Flags) (change : FlagChange) : Flags where
  caseInsensitive := change.apply .caseInsensitive flags.caseInsensitive
  multiLine := change.apply .multiLine flags.multiLine
  dotMatchesNewline := change.apply .dotMatchesNewline flags.dotMatchesNewline
  unicode := change.apply .unicode flags.unicode
  crlf := change.apply .crlf flags.crlf

theorem Flags.change_empty (flags : Flags) : flags.change {} = flags := rfl

end SqlTemplate.Regex
