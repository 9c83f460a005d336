import Extraction.Text.Letters

/-!
# Marks

The marks that give a rule its structure, and the one rule on quotation marks that all scanners of
rules share: a mark that follows a letter or a digit is an apostrophe and opens nothing.
-/

namespace Extraction.Rule

/-- Separates the steps of a rule. -/
def arrow : Text := ['-', '>']

/-- Separates the selector of a step from its regular expression, and the parts of that. -/
def fence : Text := ['#', '#']

/-- Opens a script. -/
def scriptOpen : Text := ['<', 'j', 's', '>']

/-- Closes a script. -/
def scriptClose : Text := ['<', '/', 'j', 's', '>']

/-- Opens, in any letter case, a script that takes all that follows. -/
def scriptRest : Text := ['@', 'j', 's', ':']

/-- Whether a quotation mark after `previous` opens a quoted run. -/
def opensQuote (previous : Option Char) : Bool := !(previous.map Text.isAlphanumeric).getD false

/-- Whether a character is a quotation mark. -/
def isQuote (c : Char) : Bool := c == '"' || c == '\''

/-- Whether a character is an opening bracket. -/
def isOpener (c : Char) : Bool := c == '(' || c == '[' || c == '\x7b'

/-- The opening bracket that a closing one belongs to. -/
def opener? (c : Char) : Option Char :=
  if c = ')' then some '(' else if c = ']' then some '[' else if c = '\x7d' then some '\x7b'
  else none

end Extraction.Rule
