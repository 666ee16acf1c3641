import PrinterWiring.Json.Writer

/-!
# Writing TOML texts

A text can be written in four ways: between double or single quotes, and each of them once or three times.
Single quotes escape nothing and three of them allow line feeds. The first way that needs no escapes is
taken; if there is none, double quotes with escapes.
-/

namespace PrinterWiring.Toml

/-- The length of the longest run of a character. -/
def longestRun (c : Char) (cs : List Char) : Nat :=
  (cs.foldl (fun (best, run) d => if d = c then (max best (run + 1), run + 1) else (best, 0)) (0, 0)).1

/-- Whether a character can only be written as an escape. -/
def needsEscape (c : Char) : Bool := (c.toNat < 32 && c ≠ '\t' && c ≠ '\n') || c.toNat = 127

/-- A code point in four hexadecimal digits. -/
def hexFour (n : Nat) : List Char := [4096, 256, 16, 1].map fun place => (Json.hexDigit (n / place % 16)).toUpper

/-- A text inside double quotes. After `quotes` double quotes in a row one has to be escaped; line feeds
may stand if `multiline`. `run` counts the double quotes just written. -/
def escaped (quotes : Nat) (multiline : Bool) : Nat → List Char → List Char
  | _, [] => []
  | run, c :: cs =>
    if c = '"' then
      if run < quotes then c :: escaped quotes multiline (run + 1) cs
      else '\\' :: c :: escaped quotes multiline 0 cs
    else if c = '\n' && multiline then c :: escaped quotes multiline 0 cs
    else if c = '\\' then '\\' :: '\\' :: escaped quotes multiline 0 cs
    else if c = '\n' then '\\' :: 'n' :: escaped quotes multiline 0 cs
    else if c = '\t' then '\\' :: 't' :: escaped quotes multiline 0 cs
    else if c = '\r' then '\\' :: 'r' :: escaped quotes multiline 0 cs
    else if c.toNat = 8 then '\\' :: 'b' :: escaped quotes multiline 0 cs
    else if c.toNat = 12 then '\\' :: 'f' :: escaped quotes multiline 0 cs
    else if needsEscape c then '\\' :: 'u' :: (hexFour c.toNat ++ escaped quotes multiline 0 cs)
    else c :: escaped quotes multiline 0 cs

/-- A text as it is written. -/
def quote (s : String) : String :=
  let cs := s.toList
  let escapes := cs.any needsEscape
  let lines := cs.contains '\n'
  let backslash := cs.contains '\\'
  let doubles := longestRun '"' cs
  let singles := longestRun '\'' cs
  let wrap (delimiter : List Char) (body : List Char) : String := .ofList (delimiter ++ body ++ delimiter)
  let opening : List Char := if lines then ['\n'] else []
  let three (c : Char) (body : List Char) : String := .ofList ([c, c, c] ++ opening ++ body ++ [c, c, c])
  if !escapes && !backslash && doubles = 0 && !lines then wrap ['"'] (escaped 0 false 0 cs)
  else if !escapes && singles = 0 && !lines then wrap ['\''] cs
  else if !escapes && !backslash && doubles ≤ 2 then three '"' (escaped 2 true 0 cs)
  else if !escapes && singles ≤ 2 then three '\'' cs
  else if lines then three '"' (escaped 2 true 0 cs)
  else wrap ['"'] (escaped 0 false 0 cs)

end PrinterWiring.Toml
