/-!
# Patterns of names

A pattern matches characters by themselves, letters of either case alike in
ASCII; `_` matches any character, `%` any text, and a backslash takes the next
character as it is.
-/

namespace ClusterTrace.Database

/-- A part of a pattern. -/
inductive PatternItem where
  | anyText
  | anyChar
  | char (c : Char)
deriving Repr, DecidableEq

/-- The parts of a written pattern.  A backslash at its end is none. -/
def patternItems : List Char → List PatternItem
  | [] => []
  | '\\' :: c :: rest => .char c :: patternItems rest
  | c :: rest =>
      (if c = '%' then .anyText else if c = '_' then .anyChar else .char c) ::
        patternItems rest

/-- Some end of the text satisfies a predicate, the whole text included. -/
def someEnd (accepts : List Char → Bool) : List Char → Bool
  | [] => accepts []
  | c :: rest => accepts (c :: rest) || someEnd accepts rest

/-- The parts match the whole text. -/
def matchesItems : List PatternItem → List Char → Bool
  | [], text => text.isEmpty
  | .anyText :: items, text => someEnd (matchesItems items) text
  | .anyChar :: items, text =>
      match text with
      | _ :: rest => matchesItems items rest
      | [] => false
  | .char c :: items, text =>
      match text with
      | d :: rest => c.toLower == d.toLower && matchesItems items rest
      | [] => false

def isLike (pattern text : String) : Bool :=
  matchesItems (patternItems pattern.toList) text.toList

/-- A character of a pattern that stands for itself. -/
def escapeChar (c : Char) : List Char :=
  if c = '\\' || c = '%' || c = '_' then ['\\', c] else [c]

/-- The pattern of the texts that begin with a given one. -/
def prefixPattern (beginning : String) : String :=
  String.ofList (beginning.toList.flatMap escapeChar ++ ['%'])

end ClusterTrace.Database
