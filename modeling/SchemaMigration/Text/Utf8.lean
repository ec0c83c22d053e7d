namespace SchemaMigration.Text

/-!
# Octets as text

Decoding of UTF-8 octets that may be malformed: every maximal stretch that
starts a character without completing it becomes one replacement character.
-/

/-- The number of octets that characters take. -/
def octetCount (text : List Char) : Nat :=
  text.foldl (fun count character => count + character.utf8Size) 0

/-- The octets of a text. -/
def octetsOf (text : String) : List Nat :=
  text.toUTF8.toList.map UInt8.toNat

/-- The mark shown in place of octets that form no character. -/
def replacement : Char :=
  Char.ofNat 0xFFFD

/-- What the first octet of a character promises. -/
structure Promise where
  /-- How many further octets follow. -/
  tails : Nat
  /-- The least value of the next octet. -/
  low : Nat
  /-- The greatest value of the next octet. -/
  high : Nat
  /-- The bits of the code point read so far. -/
  bits : Nat

/-- How the character that starts with an octet goes on, if any does. -/
def promise? (octet : Nat) : Option Promise :=
  if 0xC2 ≤ octet ∧ octet ≤ 0xDF then some ⟨1, 0x80, 0xBF, octet - 0xC0⟩
  else if octet = 0xE0 then some ⟨2, 0xA0, 0xBF, 0⟩
  else if octet = 0xED then some ⟨2, 0x80, 0x9F, 0xD⟩
  else if 0xE1 ≤ octet ∧ octet ≤ 0xEF then some ⟨2, 0x80, 0xBF, octet - 0xE0⟩
  else if octet = 0xF0 then some ⟨3, 0x90, 0xBF, 0⟩
  else if 0xF1 ≤ octet ∧ octet ≤ 0xF3 then some ⟨3, 0x80, 0xBF, octet - 0xF0⟩
  else if octet = 0xF4 then some ⟨3, 0x80, 0x8F, 4⟩
  else none

/--
Decode octets from inside a character or between characters.

`open?` is the character under way. The flag of the result tells whether every
octet belonged to a complete character.
-/
def decodeOctets (open? : Option Promise) : List Nat → List Char × Bool
  | [] =>
      match open? with
      | none => ([], true)
      | some _ => ([replacement], false)
  | octet :: rest =>
      let fresh (_ : Unit) : List Char × Bool :=
        if octet < 0x80 then
          let (text, whole) := decodeOctets none rest
          (Char.ofNat octet :: text, whole)
        else
          match promise? octet with
          | some promise => decodeOctets (some promise) rest
          | none => (replacement :: (decodeOctets none rest).1, false)
      match open? with
      | none => fresh ()
      | some promise =>
          if promise.low ≤ octet ∧ octet ≤ promise.high then
            let bits := promise.bits * 64 + (octet - 0x80)
            match promise.tails with
            | 0 | 1 =>
                let (text, whole) := decodeOctets none rest
                (Char.ofNat bits :: text, whole)
            | tails + 2 => decodeOctets (some ⟨tails + 1, 0x80, 0xBF, bits⟩) rest
          else
            (replacement :: (fresh ()).1, false)

/-- The text of octets, with replacement marks where they are malformed. -/
def ofOctetsLossy (octets : List Nat) : String :=
  String.ofList (decodeOctets none octets).1

/-- The text of octets, when they are well formed. -/
def ofOctets? (octets : List Nat) : Option String :=
  let (text, whole) := decodeOctets none octets
  if whole then some (String.ofList text) else none

end SchemaMigration.Text
