import YamlListing.Unicode.CodePoints
import YamlListing.Unicode.Decomposition

set_option autoImplicit false

/-! # Width variants

East Asian character sets hold a second, fullwidth copy of the ASCII characters and a halfwidth copy
of katakana, Hangul letters and some symbols. Each stands for one ordinary character, which is its
compatibility form. -/

namespace YamlListing.Unicode

/-- Whether a character is a width variant: the ideographic space or a member of the block of
    halfwidth and fullwidth forms. -/
def isWidthVariant (c : Char) : Bool :=
  c = '\u3000' || (0xFF01 ≤ c.toNat && c.toNat ≤ 0xFFEE)

/-- The width variants past the fullwidth copy of ASCII, with their ordinary forms. -/
def widthBlocks : Array BaseBlock := #[
  ⟨0xFF5F, [
    0x2985, 0x2986, 0x3002, 0x300C, 0x300D, 0x3001, 0x30FB, 0x30F2, 0x30A1, 0x30A3, 0x30A5,
    0x30A7, 0x30A9, 0x30E3, 0x30E5, 0x30E7, 0x30C3, 0x30FC, 0x30A2, 0x30A4, 0x30A6, 0x30A8,
    0x30AA, 0x30AB, 0x30AD, 0x30AF, 0x30B1, 0x30B3, 0x30B5, 0x30B7, 0x30B9, 0x30BB, 0x30BD,
    0x30BF, 0x30C1, 0x30C4, 0x30C6, 0x30C8, 0x30CA, 0x30CB, 0x30CC, 0x30CD, 0x30CE, 0x30CF,
    0x30D2, 0x30D5, 0x30D8, 0x30DB, 0x30DE, 0x30DF, 0x30E0, 0x30E1, 0x30E2, 0x30E4, 0x30E6,
    0x30E8, 0x30E9, 0x30EA, 0x30EB, 0x30EC, 0x30ED, 0x30EF, 0x30F3, 0x3099, 0x309A, 0x1160,
    0x1100, 0x1101, 0x11AA, 0x1102, 0x11AC, 0x11AD, 0x1103, 0x1104, 0x1105, 0x11B0, 0x11B1,
    0x11B2, 0x11B3, 0x11B4, 0x11B5, 0x111A, 0x1106, 0x1107, 0x1108, 0x1121, 0x1109, 0x110A,
    0x110B, 0x110C, 0x110D, 0x110E, 0x110F, 0x1110, 0x1111, 0x1112]⟩,
  ⟨0xFFC2, [0x1161, 0x1162, 0x1163, 0x1164, 0x1165, 0x1166]⟩,
  ⟨0xFFCA, [0x1167, 0x1168, 0x1169, 0x116A, 0x116B, 0x116C]⟩,
  ⟨0xFFD2, [0x116D, 0x116E, 0x116F, 0x1170, 0x1171, 0x1172]⟩,
  ⟨0xFFDA, [0x1173, 0x1174, 0x1175]⟩,
  ⟨0xFFE0, [0xA2, 0xA3, 0xAC]⟩,
  ⟨0xFFE4, [0xA6, 0xA5, 0x20A9]⟩,
  ⟨0xFFE8, [0x2502, 0x2190, 0x2191, 0x2192, 0x2193, 0x25A0, 0x25CB]⟩]

/-- The ordinary form of a width variant. The fullwidth copy of ASCII lies at a fixed distance,
    the ideographic space is a space, and the fullwidth macron is a space with a macron above. -/
def ordinaryWidth (c : Char) : List Char :=
  let n := c.toNat
  if c = '\u3000' then [' ']
  else if n = 0xFFE3 then [' ', '\u0304']
  else if 0xFF01 ≤ n ∧ n ≤ 0xFF5E then [Char.ofNat (n - 0xFEE0)]
  else match lastAtMost? (fun (b : BaseBlock) => b.first) widthBlocks n with
    | none => [c]
    | some b => match b.bases[n - b.first]? with
      | none => [c]
      | some base => [Char.ofNat base]

end YamlListing.Unicode
