import YamlListing.Text.Basic

set_option autoImplicit false

/-! # Control characters

A control character must not reach a terminal, where it could begin a command. Each is shown as one
visible character, so that columns stay as they are: the controls below the space and DEL as the
control pictures that Unicode has for them, the others as the replacement character. -/

namespace YamlListing.Terminal

/-- Whether a character is a control. -/
def isControl (c : Char) : Bool := c.toNat < 0x20 || (0x7F ≤ c.toNat && c.toNat ≤ 0x9F)

/-- The visible character that stands for a control; any other character stands for itself. -/
def escapeChar (c : Char) : Char :=
  if c.toNat < 0x20 then Char.ofNat (0x2400 + c.toNat)
  else if c = '\x7f' then '\u2421'
  else if 0x80 ≤ c.toNat ∧ c.toNat ≤ 0x9F then '\ufffd'
  else c

/-- A text with its controls made visible. -/
def escape (t : Text) : Text := t.map escapeChar

end YamlListing.Terminal
