import Fanout.Job.Status

/-! Where job ids come from: a counter under a common first part, or random bits
in the form of a version 4 identifier. -/
namespace Fanout

/-- The `n`-th id of a counter of 64 bits that starts at one. -/
def sequentialId (stem : String) (n : Nat) : JobId :=
  stem ++ "-" ++ toString ((n + 1) % wordCount)

/-- The lowest `4 * width` bits of a number in hexadecimal digits. -/
def hexField : Nat → Nat → List Char
  | 0, _ => []
  | width + 1, n => hexField width (n / 16) ++ [Nat.digitChar (n % 16)]

/-- Random bits as an identifier of version 4: of 128 bits six are fixed, the
version and the variant. -/
def randomId (bits : Nat) : JobId :=
  let version := 0x4000 + (bits >>> 64) % 0x1000
  let variant := 0x8000 + (bits >>> 48) % 0x4000
  String.ofList (hexField 8 (bits >>> 96) ++ '-' :: hexField 4 (bits >>> 80) ++
    '-' :: hexField 4 version ++ '-' :: hexField 4 variant ++ '-' :: hexField 12 bits)

end Fanout
