/-!
# Globs

A glob matches whole texts: `?` stands for one character, `*` for any characters, `[...]` for one of some
characters, `[!...]` for one outside them, and `**` as a whole path component for any directories.

* `Glob.parse`: read a glob,
* `Glob.isMatch`: does a text match?
-/

namespace Retarget

/-- A member of a bracket: a character or a range of characters. -/
structure GlobRange where
  lo : Char
  hi : Char
deriving Repr, BEq, DecidableEq

/-- A part of a glob. -/
inductive GlobToken
  | char (c : Char)
  | any
  | star
  | directories
  | within (rs : List GlobRange)
  | except (rs : List GlobRange)
deriving Repr, BEq, DecidableEq

/-- A glob that has been read. -/
structure Glob where
  tokens : List GlobToken
deriving Repr, BEq, DecidableEq

/-- Why a text is no glob: the place and the complaint. -/
structure GlobError where
  position : Nat
  complaint : String
deriving Repr, BEq, DecidableEq

def GlobError.message (e : GlobError) : String := s!"Pattern syntax error near position {e.position}: {e.complaint}"

namespace Glob

/-! ## Reading -/

/-- The members of a bracket. -/
def readRanges : List Char → List GlobRange
  | lo :: '-' :: hi :: rest => ⟨lo, hi⟩ :: readRanges rest
  | c :: rest => ⟨c, c⟩ :: readRanges rest
  | [] => []

/-- Read a bracket after its opening: the first member may be a closing bracket. -/
def readBracket (cs : List Char) : Option (GlobToken × List Char) :=
  let close := fun (cs : List Char) => match cs with
    | [] => none
    | c :: rest =>
      match rest.dropWhile (· != ']') with
      | [] => none
      | _ :: after => some (readRanges (c :: rest.takeWhile (· != ']')), after)
  match cs with
  | '!' :: inner => (close inner).map fun (rs, after) => (.except rs, after)
  | inner => (close inner).map fun (rs, after) => (.within rs, after)

/-- Add a `**`, unless one stands just before it that is not the very first part. -/
def pushDirectories (rev : List GlobToken) : List GlobToken :=
  match rev with
  | .directories :: _ :: _ => rev
  | _ => .directories :: rev

/-- Read a glob. `position` counts the characters read, `prev` is the one read last, and `rev` holds the parts read
so far in reverse. -/
def readFrom : Nat → Nat → Option Char → List GlobToken → List Char → Except GlobError (List GlobToken)
  | _, _, _, rev, [] => .ok rev.reverse
  | 0, _, _, rev, _ => .ok rev.reverse
  | fuel + 1, position, prev, rev, c :: rest =>
    if c == '?' then readFrom fuel (position + 1) (some c) (.any :: rev) rest
    else if c == '*' then
      let stars := (c :: rest).takeWhile (· == '*')
      let after := (c :: rest).dropWhile (· == '*')
      if 2 < stars.length then
        .error ⟨position + 2, "wildcards are either regular `*` or recursive `**`"⟩
      else if stars.length == 2 then
        if prev.all (· == '/') then
          match after with
          | [] => readFrom fuel (position + 2) (some '*') (pushDirectories rev) []
          | '/' :: after => readFrom fuel (position + 3) (some '/') (pushDirectories rev) after
          | _ => .error ⟨position + 2, "recursive wildcards must form a single path component"⟩
        else .error ⟨position - 1, "recursive wildcards must form a single path component"⟩
      else readFrom fuel (position + 1) (some '*') (.star :: rev) rest
    else if c == '[' then
      match readBracket rest with
      | none => .error ⟨position, "invalid range pattern"⟩
      | some (t, after) =>
        readFrom fuel (position + 1 + (rest.length - after.length)) (some ']') (t :: rev) after
    else readFrom fuel (position + 1) (some c) (.char c :: rev) rest

/-- Read a glob. -/
def parse (text : String) : Except GlobError Glob := do
  let cs := text.toList
  return ⟨← readFrom (cs.length + 1) 0 none [] cs⟩

/-! ## Matching -/

/-- How matching ends: with a match, without one, or with too short a text for any choice of the parts before. -/
inductive Verdict
  | matched | unmatched | tooShort
deriving BEq, DecidableEq

def inRanges (rs : List GlobRange) (c : Char) : Bool := rs.any fun r => r.lo ≤ c && c ≤ r.hi

/-- Let a wildcard take in one character after another until the parts after it match. `onlyAtSlash` makes it stop
behind slashes only. -/
def sweep (onlyAtSlash : Bool) (next : List Char → Verdict) : List Char → Verdict
  | [] => next []
  | c :: rest =>
    if onlyAtSlash && c != '/' then sweep onlyAtSlash next rest
    else match next rest with
      | .unmatched => sweep onlyAtSlash next rest
      | v => v

/-- Match parts against a whole text. -/
def run : List GlobToken → List Char → Verdict
  | [], cs => if cs.isEmpty then .matched else .unmatched
  | t :: ts, cs =>
    let wildcard := fun (onlyAtSlash : Bool) => match run ts cs with
      | .unmatched => sweep onlyAtSlash (run ts) cs
      | v => v
    let one := fun (p : Char → Bool) => match cs with
      | [] => .tooShort
      | c :: rest => if p c then run ts rest else .unmatched
    match t with
    | .star => wildcard false
    | .directories => wildcard true
    | .any => one fun _ => true
    | .char c => one (· == c)
    | .within rs => one (inRanges rs)
    | .except rs => one fun c => !inRanges rs c

/-- Does the text match? -/
def isMatch (g : Glob) (text : String) : Bool := run g.tokens text.toList == .matched

end Glob

end Retarget
