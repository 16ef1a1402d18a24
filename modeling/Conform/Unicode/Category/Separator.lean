import Conform.Unicode.CodeSet
/-!
# Separator — the categories of what has no shape of its own

Version 16 of the character database. Surrogates are code points that no
text holds, so they have no category here.
-/


namespace Conform.Unicode

/-- The blanks. -/
def spaceSeparator : CodeSet :=
  ⟨[0x20, 0x21, 0xA0, 0xA1, 0x1680, 0x1681, 0x2000, 0x200B, 0x202F, 0x2030, 0x205F, 0x2060,
    0x3000, 0x3001]⟩

/-- The separator of lines. -/
def lineSeparator : CodeSet :=
  ⟨[0x2028, 0x2029]⟩

/-- The separator of paragraphs. -/
def paragraphSeparator : CodeSet :=
  ⟨[0x2029, 0x202A]⟩

/-- The control characters. -/
def control : CodeSet :=
  ⟨[0x0, 0x20, 0x7F, 0xA0]⟩

/-- The characters that direct the layout. -/
def format : CodeSet :=
  ⟨[0xAD, 0xAE, 0x600, 0x606, 0x61C, 0x61D, 0x6DD, 0x6DE, 0x70F, 0x710, 0x890, 0x892, 0x8E2,
    0x8E3, 0x180E, 0x180F, 0x200B, 0x2010, 0x202A, 0x202F, 0x2060, 0x2065, 0x2066, 0x2070, 0xFEFF,
    0xFF00, 0xFFF9, 0xFFFC, 0x110BD, 0x110BE, 0x110CD, 0x110CE, 0x13430, 0x13440, 0x1BCA0,
    0x1BCA4, 0x1D173, 0x1D17B, 0xE0001, 0xE0002, 0xE0020, 0xE0080]⟩

/-- The characters that are left to private agreement. -/
def privateUse : CodeSet :=
  ⟨[0xE000, 0xF900, 0xF0000, 0xFFFFE, 0x100000, 0x10FFFE]⟩

end Conform.Unicode
