import RecordDocs.Text.Quoted

/-!
# UTF-8

Strict reading of octets as UTF-8, with the place and the kind of the first fault. A sequence is
faulty as soon as an octet of it cannot continue it, and what was read of it up to that octet is
the faulty part; a sequence that the end of the data cuts off is faulty as a whole.
-/

namespace RecordDocs.Text

inductive Utf8Flaw where
  | start
  | continuation
  | truncated
  deriving DecidableEq, Repr

/-- The first fault of a sequence of octets: where it starts, its first octet, its length. -/
structure Utf8Fault where
  flaw : Utf8Flaw
  position : Nat
  octet : UInt8
  length : Nat
  deriving DecidableEq, Repr

def Utf8Flaw.message : Utf8Flaw → String
  | .start => "invalid start byte"
  | .continuation => "invalid continuation byte"
  | .truncated => "unexpected end of data"

def Utf8Fault.message (fault : Utf8Fault) : String :=
  let place :=
    if fault.length == 1 then
      "byte 0x" ++ String.ofList (hexDigits 2 fault.octet.toNat) ++ " in position "
        ++ toString fault.position
    else
      "bytes in position " ++ toString fault.position ++ "-"
        ++ toString (fault.position + fault.length - 1)
  "'utf-8' codec can't decode " ++ place ++ ": " ++ fault.flaw.message

/-- What may follow a lead octet: how many octets, and the range of the first of them, which rules
out overlong forms, surrogates and codes beyond the last. -/
structure Utf8Lead where
  following : Nat
  low : Nat
  high : Nat
  bits : Nat

def Utf8Lead.of? (octet : UInt8) : Option Utf8Lead :=
  let code := octet.toNat
  if code < 0x80 then some ⟨0, 0, 0, code⟩
  else if code < 0xC2 then none
  else if code < 0xE0 then some ⟨1, 0x80, 0xBF, code - 0xC0⟩
  else if code < 0xF0 then
    some ⟨2, if code == 0xE0 then 0xA0 else 0x80, if code == 0xED then 0x9F else 0xBF, code - 0xE0⟩
  else if code < 0xF5 then
    some ⟨3, if code == 0xF0 then 0x90 else 0x80, if code == 0xF4 then 0x8F else 0xBF, code - 0xF0⟩
  else none

/-- Reads `following` continuation octets, the first of them between `low` and `high`. The result
is the code and the octets left, or the flaw and how many octets were good. -/
def Utf8Lead.follow (following low high bits good : Nat) (octets : List UInt8) :
    Except (Utf8Flaw × Nat) (Nat × List UInt8) :=
  match following, octets with
  | 0, rest => .ok (bits, rest)
  | _ + 1, [] => .error (.truncated, good)
  | following + 1, octet :: rest =>
      let code := octet.toNat
      if low ≤ code && code ≤ high then
        follow following 0x80 0xBF (bits * 64 + (code - 0x80)) (good + 1) rest
      else
        .error (.continuation, good)

theorem Utf8Lead.follow_length {following low high bits good : Nat} {octets rest : List UInt8}
    {code : Nat} (h : follow following low high bits good octets = .ok (code, rest)) :
    rest.length ≤ octets.length := by
  fun_induction follow following low high bits good octets with
  | case1 =>
    simp only [Except.ok.injEq, Prod.mk.injEq] at h
    exact h.2 ▸ Nat.le_refl _
  | case2 => cases h
  | case3 _ _ _ _ _ _ _ _ _ ih => exact Nat.le_succ_of_le (ih h)
  | case4 => cases h

def decodeUtf8From (position : Nat) : List UInt8 → Except Utf8Fault (List Char)
  | [] => .ok []
  | octet :: rest =>
      match Utf8Lead.of? octet with
      | none => .error ⟨.start, position, octet, 1⟩
      | some lead =>
          match _h : Utf8Lead.follow lead.following lead.low lead.high lead.bits 1 rest with
          | .error (flaw, good) => .error ⟨flaw, position, octet, good⟩
          | .ok (code, left) =>
              (decodeUtf8From (position + lead.following + 1) left).map (hold code ++ ·)
termination_by octets => octets.length
decreasing_by
  have := Utf8Lead.follow_length _h
  simp only [List.length_cons]
  omega

def decodeUtf8 (octets : List UInt8) : Except Utf8Fault (List Char) :=
  decodeUtf8From 0 octets

/-- The characters of octets, with a replacement character for every faulty part. -/
def decodeUtf8Lossy : List UInt8 → List Char
  | [] => []
  | octet :: rest =>
      match Utf8Lead.of? octet with
      | none => '\uFFFD' :: decodeUtf8Lossy rest
      | some lead =>
          match h : Utf8Lead.follow lead.following lead.low lead.high lead.bits 1 rest with
          | .error (_, good) => '\uFFFD' :: decodeUtf8Lossy (rest.drop (good - 1))
          | .ok (code, left) => Char.ofNat code :: decodeUtf8Lossy left
termination_by octets => octets.length
decreasing_by
  · simp
  · simp only [List.length_drop, List.length_cons]
    omega
  · have := Utf8Lead.follow_length h
    simp only [List.length_cons]
    omega

/-- The octets of a text. A half stands for the octet of its last two digits, as it does in the
name of a file; a text that is written has none. -/
def encodeUtf8 (text : String) : List UInt8 :=
  (codes text.toList).flatMap fun code =>
    if isSurrogate code then [UInt8.ofNat code] else String.utf8EncodeChar (Char.ofNat code)

end RecordDocs.Text
