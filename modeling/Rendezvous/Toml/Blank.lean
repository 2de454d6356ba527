/-!
# Blanks, line ends and comments

Between the parts of a TOML line stand blanks; lines end with a line feed, which a carriage return
may precede; a comment runs from a number sign to the end of its line. Control characters other than
the tab are allowed nowhere, not even in comments.
-/

set_option autoImplicit false

namespace Rendezvous.Toml

/-- Reads something off the front of a text; what is left comes with it. -/
abbrev Reader (α : Type) := List Char → Option (α × List Char)

def isBlank (c : Char) : Bool := c = ' ' || c = '\t'

/-- No control character, or the tab. -/
def isPlain (c : Char) : Bool := c = '\t' || (32 ≤ c.toNat && c.toNat ≠ 127)

def skipBlanks (cs : List Char) : List Char := cs.dropWhile isBlank

/-- What follows a line end. -/
def afterNewline : List Char → Option (List Char)
  | '\n' :: rest => some rest
  | '\r' :: '\n' :: rest => some rest
  | _ => none

def skipComment : List Char → List Char
  | '#' :: rest => rest.dropWhile isPlain
  | cs => cs

/-- What follows the end of a line on which nothing but blanks and a comment is left. The text may
end there too. -/
def endLine (cs : List Char) : Option (List Char) :=
  match skipComment (skipBlanks cs) with
  | [] => some []
  | cs => afterNewline cs

/-- Skips blanks, line ends and comments; `inComment` says that a comment has begun. -/
def skipGap (inComment : Bool) : List Char → List Char
  | [] => []
  | '\n' :: rest => skipGap false rest
  | '\r' :: '\n' :: rest => skipGap false rest
  | c :: rest =>
      if inComment then if isPlain c then skipGap true rest else c :: rest
      else if isBlank c then skipGap false rest
      else if c = '#' then skipGap true rest
      else c :: rest

end Rendezvous.Toml
