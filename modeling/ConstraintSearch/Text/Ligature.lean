import ConstraintSearch.Text.Columns

/-!
Letters that are drawn as one shape with letters before them, and so share their columns. Only the
letters that do so in common fonts are known. A sequence is read from its end.
-/

namespace ConstraintSearch.Text

def alefRanges : CodeRanges := [
  (0x622, 0x623), (0x625, 0x625), (0x627, 0x627), (0x671, 0x673), (0x675, 0x675), (0x773, 0x774),
  (0x870, 0x882)]

def lamRanges : CodeRanges := [
  (0x644, 0x644), (0x6b5, 0x6b8), (0x76a, 0x76a), (0x8a6, 0x8a6), (0x8c7, 0x8c7)]

/-- Khmer letters that a sign before them turns into subscripts. -/
def khmerRanges : CodeRanges := [
  (0x1780, 0x1782), (0x1784, 0x1787), (0x1789, 0x178c), (0x178e, 0x1793), (0x1795, 0x1798),
  (0x179b, 0x179d), (0x17a0, 0x17a0), (0x17a2, 0x17a2), (0x17a7, 0x17a7), (0x17ab, 0x17ac),
  (0x17af, 0x17af)]

def tifinaghRanges : CodeRanges := [
  (0x2d31, 0x2d65), (0x2d6f, 0x2d6f)]

/-- Ignorable marks, which do not separate letters. -/
def ignorableMarkRanges : CodeRanges := [
  (0x34f, 0x34f), (0x17b4, 0x17b5), (0x180b, 0x180d), (0x180f, 0x180f), (0xfe00, 0xfe0f),
  (0xe0100, 0xe01ef)]

/-- Characters without columns of their own that separate Arabic letters nevertheless. -/
def separatingRanges : CodeRanges := [
  (0x605, 0x605), (0x890, 0x891), (0x8e2, 0x8e2), (0x9be, 0x9be), (0x9d7, 0x9d7), (0xb3e, 0xb3e),
  (0xb57, 0xb57), (0xbbe, 0xbbe), (0xbd7, 0xbd7), (0xcc0, 0xcc0), (0xcc2, 0xcc2), (0xcc7, 0xcc8),
  (0xcca, 0xccb), (0xcd5, 0xcd6), (0xd3e, 0xd3e), (0xd4e, 0xd4e), (0xd57, 0xd57), (0xdcf, 0xdcf),
  (0xddf, 0xddf), (0x1160, 0x11ff), (0x180e, 0x180e), (0x1b35, 0x1b35), (0x1b3b, 0x1b3b),
  (0x1b3d, 0x1b3d), (0x1b43, 0x1b43), (0x200c, 0x200d), (0x2065, 0x2069), (0x302e, 0x302f),
  (0x3164, 0x3164), (0xa8fa, 0xa8fa), (0xd7b0, 0xd7c6), (0xd7cb, 0xd7fb), (0xff9e, 0xffa0),
  (0xfff0, 0xfff8), (0x111c2, 0x111c3), (0x1133e, 0x1133e), (0x11357, 0x11357),
  (0x114b0, 0x114b0), (0x114bd, 0x114bd), (0x115af, 0x115af), (0x11930, 0x11930),
  (0x1193f, 0x1193f), (0x11941, 0x11941), (0x11a3a, 0x11a3a), (0x11a84, 0x11a89),
  (0x11d46, 0x11d46), (0x11f02, 0x11f02), (0x1d165, 0x1d165), (0x1d16e, 0x1d172),
  (0xe0000, 0xe0000), (0xe0002, 0xe001f), (0xe0080, 0xe00ff), (0xe01f0, 0xe0fff)]

def isArabicMark (c : Char) : Bool := charColumns c = 0 && !separatingRanges.has c

/-- A letter that may be drawn as one shape with what stands before it, or several such letters.
Some are so only after a joiner. -/
inductive Ligature where
  | alef
  | lamed (joined : Bool)
  | khmer
  | ya (joined : Bool)
  /-- The Buginese vowel sign i tied to a letter ya. -/
  | vowelYa
  | tifinagh (joined : Bool)
  /-- A Tifinagh letter after the sign that joins consonants. -/
  | joinedTifinagh
  | lisuTone
  | orkhon (joined : Bool)
deriving DecidableEq

namespace Ligature

def of? (c : Char) : Option Ligature :=
  if alefRanges.has c then some .alef
  else if c = '\u05dc' then some (.lamed false)
  else if khmerRanges.has c then some .khmer
  else if c = '\u1a10' then some (.ya false)
  else if tifinaghRanges.has c then some (.tifinagh false)
  else if c = '\ua4fc' || c = '\ua4fd' then some .lisuTone
  else if c.toNat = 0x10c03 then some (.orkhon false)
  else none

def join : Ligature → Ligature
  | .lamed _ => lamed true
  | .ya _ => ya true
  | .tifinagh _ => tifinagh true
  | .orkhon _ => orkhon true
  | l => l

/-- The columns that a letter adds to what it is drawn with, and what that awaits further. -/
def shape? (l : Ligature) (c : Char) : Option (Int × Option Ligature) :=
  match l with
  | .alef =>
    if lamRanges.has c then some (0, none)
    else if isArabicMark c then some (0, some alef)
    else none
  | .lamed joined => if joined && c = '\u05d0' then some (0, none) else none
  | .khmer => if c = '\u17d2' then some (-1, none) else none
  | .ya joined => if joined && c = '\u1a17' then some (0, some vowelYa) else none
  | .vowelYa => if c = '\u1a15' then some (0, none) else none
  | .tifinagh joined =>
    if c = '\u2d7f' then some (1, some joinedTifinagh)
    else if joined && tifinaghRanges.has c then some (0, none)
    else none
  | .joinedTifinagh => if tifinaghRanges.has c then some (-1, none) else none
  | .lisuTone => if '\ua4f8' ≤ c && c ≤ '\ua4fb' then some (0, none) else none
  | .orkhon joined => if joined && c.toNat = 0x10c32 then some (0, none) else none

/-- The columns that a character adds to a letter that it goes with. Joiners and ignorable marks add
none and separate nothing, except that an alef follows its own rules. -/
def before? (l : Ligature) (c : Char) : Option (Int × Option Ligature) :=
  if l ≠ alef && c = '\u200d' then some (0, some l.join)
  else if l ≠ alef && ignorableMarkRanges.has c then some (0, some l)
  else l.shape? c

end Ligature

end ConstraintSearch.Text
