import Mathlib.Data.List.DropRight
import Mathlib.Data.List.Basic

/-! Base64 as `base64` and `binascii` have it: the encoder, and the reader that goes
character by character, strictly or passing over what is not in the alphabet. -/
namespace Moadian.Codec

abbrev Bytes := List UInt8

def sextetChar (n : Nat) : Char :=
  if n < 26 then Char.ofNat (n + 65) else if n < 52 then Char.ofNat (n + 71)
  else if n < 62 then Char.ofNat (n - 4) else if n = 62 then '+' else '/'

def charSextet (c : Char) : Option Nat :=
  if 'A' ≤ c ∧ c ≤ 'Z' then some (c.toNat - 65) else if 'a' ≤ c ∧ c ≤ 'z' then some (c.toNat - 71)
  else if '0' ≤ c ∧ c ≤ '9' then some (c.toNat + 4) else if c = '+' then some 62
  else if c = '/' then some 63 else none

def b64encode : Bytes → List Char
  | [] => []
  | [a] => [sextetChar (a.toNat / 4),sextetChar (a.toNat % 4 * 16),'=','=']
  | [a,b] => [sextetChar (a.toNat / 4),sextetChar (a.toNat % 4 * 16 + b.toNat / 16),sextetChar (b.toNat % 16 * 4),'=']
  | a :: b :: c :: rest => sextetChar (a.toNat / 4) :: sextetChar (a.toNat % 4 * 16 + b.toNat / 16) ::
      sextetChar (b.toNat % 16 * 4 + c.toNat / 64) :: sextetChar (c.toNat % 64) :: b64encode rest

/- Where the reader stands: the place in the quad, the bits left over, the padding
characters since the last data, whether any padding was seen, the bytes written. -/
structure Quad where
  quad : Nat := 0
  left : Nat := 0
  pads : Nat := 0
  padded : Bool := false
  written : Nat := 0
  deriving DecidableEq, Repr

def a2b (strict : Bool) (s : Quad) : List Char → Except String Bytes
  | [] =>
    if s.quad = 0 then .ok []
    else if s.quad = 1 then .error ("Invalid base64-encoded string: number of data characters (" ++
      toString (s.written / 3 * 4 + 1) ++ ") cannot be 1 more than a multiple of 4")
    else .error "Incorrect padding"
  | c :: rest =>
    if c = '=' then
      if 2 ≤ s.quad then
        if 4 ≤ s.quad + (s.pads + 1) then
          if strict ∧ rest ≠ [] then .error "Excess data after padding" else .ok []
        else a2b strict { s with padded := true, pads := s.pads + 1 } rest
      else a2b strict { s with padded := true } rest
    else match charSextet c with
      | none => if strict then .error "Only base64 data is allowed" else a2b strict s rest
      | some v =>
        if strict ∧ s.padded then .error "Discontinuous padding not allowed"
        else if s.quad = 0 then a2b strict { s with quad := 1, left := v, pads := 0 } rest
        else if s.quad = 1 then
          (a2b strict { s with quad := 2, left := v % 16, pads := 0, written := s.written + 1 } rest).map
            (UInt8.ofNat (s.left * 4 + v / 16) :: ·)
        else if s.quad = 2 then
          (a2b strict { s with quad := 3, left := v % 4, pads := 0, written := s.written + 1 } rest).map
            (UInt8.ofNat (s.left * 16 + v / 4) :: ·)
        else
          (a2b strict { s with quad := 0, left := 0, pads := 0, written := s.written + 1 } rest).map
            (UInt8.ofNat (s.left * 64 + v) :: ·)

def a2bBase64 (strict : Bool) (text : List Char) : Except String Bytes :=
  if strict ∧ text.head? = some '=' then .error "Leading padding not allowed" else a2b strict {} text

def b64decode (validate : Bool) (text : List Char) : Except String Bytes :=
  if text.all (·.toNat < 128) then a2bBase64 validate text
  else .error "string argument should contain only ASCII characters"

def toUrl (c : Char) : Char := if c = '+' then '-' else if c = '/' then '_' else c

def ofUrl (c : Char) : Char := if c = '-' then '+' else if c = '_' then '/' else c

def urlsafeB64encode (data : Bytes) : List Char := (b64encode data).map toUrl

def urlsafeB64decode (text : List Char) : Except String Bytes := b64decode false (text.map ofUrl)

/-! The alphabet: each of the sixty-four characters is read as what it was written for. -/

theorem sextetFacts : ∀ n < 64, charSextet (sextetChar n) = some n ∧ sextetChar n ≠ '=' ∧ toUrl (sextetChar n) ≠ '=' ∧
    toUrl (sextetChar n) ≠ '.' ∧ ofUrl (toUrl (sextetChar n)) = sextetChar n ∧ (sextetChar n).toNat < 128 := by decide

theorem readSextet {n : Nat} (small : n < 64) : charSextet (sextetChar n) = some n := (sextetFacts n small).1

theorem sextetData {n : Nat} (small : n < 64) : sextetChar n ≠ '=' := (sextetFacts n small).2.1

section Step
variable {strict : Bool} {n : Nat} {s : Quad} {rest : List Char}

theorem readFirst (small : n < 64) (w : Nat) : a2b strict ⟨0,0,0,false,w⟩ (sextetChar n :: rest) =
    a2b strict ⟨1,n,0,false,w⟩ rest := by
  simp [a2b,sextetData small,readSextet small]

theorem readSecond (small : n < 64) (l w : Nat) : a2b strict ⟨1,l,0,false,w⟩ (sextetChar n :: rest) =
    (a2b strict ⟨2,n % 16,0,false,w + 1⟩ rest).map (UInt8.ofNat (l * 4 + n / 16) :: ·) := by
  simp [a2b,sextetData small,readSextet small]

theorem readThird (small : n < 64) (l w : Nat) : a2b strict ⟨2,l,0,false,w⟩ (sextetChar n :: rest) =
    (a2b strict ⟨3,n % 4,0,false,w + 1⟩ rest).map (UInt8.ofNat (l * 16 + n / 4) :: ·) := by
  simp [a2b,sextetData small,readSextet small]

theorem readFourth (small : n < 64) (l w : Nat) : a2b strict ⟨3,l,0,false,w⟩ (sextetChar n :: rest) =
    (a2b strict ⟨0,0,0,false,w + 1⟩ rest).map (UInt8.ofNat (l * 64 + n) :: ·) := by
  simp [a2b,sextetData small,readSextet small]

end Step

theorem rebuilt {a : UInt8} {n : Nat} (same : n = a.toNat) : UInt8.ofNat n = a := by rw [same,UInt8.ofNat_toNat]

-- Between quads the reader owes nothing, so the bytes written so far do not matter.
theorem readBack (strict : Bool) (data : Bytes) (w : Nat) : a2b strict ⟨0,0,0,false,w⟩ (b64encode data) = .ok data := by
  induction data using b64encode.induct generalizing w with
  | case1 => simp [b64encode,a2b]
  | case2 a =>
    have low := a.toNat_lt
    rw [b64encode,readFirst (by omega),readSecond (by omega)]
    rw [rebuilt (a := a) (by omega)]
    simp [a2b,Except.map]
  | case3 a b =>
    have low := a.toNat_lt
    have next := b.toNat_lt
    rw [b64encode,readFirst (by omega),readSecond (by omega),readThird (by omega)]
    rw [rebuilt (a := a) (by omega),rebuilt (a := b) (by omega)]
    simp [a2b,Except.map]
  | case4 a b c rest ih =>
    have low := a.toNat_lt
    have next := b.toNat_lt
    have last := c.toNat_lt
    rw [b64encode,readFirst (by omega),readSecond (by omega),readThird (by omega),readFourth (by omega),ih]
    rw [rebuilt (a := a) (by omega),rebuilt (a := b) (by omega),rebuilt (a := c) (by omega)]
    rfl

/-! The shape of what is written: data, then the padding that fills the last quad. -/

structure Shape (data : Bytes) (stem : List Char) (k : Nat) : Prop where
  written : b64encode data = stem ++ List.replicate k '='
  few : k < 3
  data : ∀ c ∈ stem, ∃ n < 64, c = sextetChar n
  whole : (stem.length + k) % 4 = 0

theorem shaped (data : Bytes) : ∃ stem k, Shape data stem k := by
  induction data using b64encode.induct with
  | case1 => exact ⟨[],0,rfl,by decide,by simp,rfl⟩
  | case2 a =>
    have low := a.toNat_lt
    refine ⟨[sextetChar (a.toNat / 4),sextetChar (a.toNat % 4 * 16)],2,rfl,by decide,?_,by simp⟩
    simp only [List.mem_cons,List.not_mem_nil,or_false]
    rintro c (rfl | rfl)
    · exact ⟨_,by omega,rfl⟩
    · exact ⟨_,by omega,rfl⟩
  | case3 a b =>
    have low := a.toNat_lt
    have next := b.toNat_lt
    refine ⟨[sextetChar (a.toNat / 4),sextetChar (a.toNat % 4 * 16 + b.toNat / 16),sextetChar (b.toNat % 16 * 4)],1,rfl,
      by decide,?_,by simp⟩
    simp only [List.mem_cons,List.not_mem_nil,or_false]
    rintro c (rfl | rfl | rfl)
    · exact ⟨_,by omega,rfl⟩
    · exact ⟨_,by omega,rfl⟩
    · exact ⟨_,by omega,rfl⟩
  | case4 a b c rest ih =>
    obtain ⟨stem,k,written,few,known,whole⟩ := ih
    have low := a.toNat_lt
    have next := b.toNat_lt
    have last := c.toNat_lt
    refine ⟨sextetChar (a.toNat / 4) :: sextetChar (a.toNat % 4 * 16 + b.toNat / 16) ::
      sextetChar (b.toNat % 16 * 4 + c.toNat / 64) :: sextetChar (c.toNat % 64) :: stem,k,?_,few,?_,?_⟩
    · rw [b64encode,written]
      rfl
    · simp only [List.mem_cons]
      rintro d (rfl | rfl | rfl | rfl | later)
      · exact ⟨_,by omega,rfl⟩
      · exact ⟨_,by omega,rfl⟩
      · exact ⟨_,by omega,rfl⟩
      · exact ⟨_,by omega,rfl⟩
      · exact known d later
    · simp only [List.length_cons]
      omega

theorem encodedAscii (data : Bytes) : (b64encode data).all (·.toNat < 128) = true := by
  obtain ⟨stem,k,shape⟩ := shaped data
  rw [shape.written,List.all_append,Bool.and_eq_true,List.all_eq_true,List.all_eq_true]
  constructor
  · intro c member
    obtain ⟨n,small,rfl⟩ := shape.data c member
    exact decide_eq_true (sextetFacts n small).2.2.2.2.2
  · intro c member
    rw [List.eq_of_mem_replicate member]
    decide

theorem encodedHead (data : Bytes) : (b64encode data).head? ≠ some '=' := by
  cases data using b64encode.induct with
  | case1 => simp [b64encode]
  | case2 a => simpa [b64encode] using sextetData (n := a.toNat / 4) (by have := a.toNat_lt; omega)
  | case3 a b => simpa [b64encode] using sextetData (n := a.toNat / 4) (by have := a.toNat_lt; omega)
  | case4 a b c rest => simpa [b64encode] using sextetData (n := a.toNat / 4) (by have := a.toNat_lt; omega)

theorem decodeEncode (validate : Bool) (data : Bytes) : b64decode validate (b64encode data) = .ok data := by
  rw [b64decode,if_pos (encodedAscii data),a2bBase64,if_neg (fun both => encodedHead data both.2)]
  exact readBack validate data 0

/-! Without its padding, in the alphabet for URLs. -/

def unpadded (data : Bytes) : List Char := (urlsafeB64encode data).rdropWhile (· == '=')

def repadded (text : List Char) : Except String Bytes :=
  urlsafeB64decode (text ++ List.replicate ((4 - text.length % 4) % 4) '=')

theorem stripped {stem : List Char} (k : Nat) (data : ∀ c ∈ stem, c ≠ '=') :
    (stem ++ List.replicate k '=').rdropWhile (· == '=') = stem := by
  induction k with
  | zero =>
    rw [List.replicate_zero,List.append_nil,List.rdropWhile_eq_self_iff]
    intro some_ last
    exact data _ (List.getLast_mem some_) (by simpa using last)
  | succ k ih => rw [List.replicate_succ',← List.append_assoc,List.rdropWhile_concat_pos _ _ _ (by decide),ih]

theorem unpaddedShape {data : Bytes} {stem : List Char} {k : Nat} (shape : Shape data stem k) :
    unpadded data = stem.map toUrl := by
  rw [unpadded,urlsafeB64encode,shape.written,List.map_append,List.map_replicate]
  refine stripped k ?_
  intro c member
  obtain ⟨d,inside,rfl⟩ := List.mem_map.mp member
  obtain ⟨n,small,rfl⟩ := shape.data d inside
  exact (sextetFacts n small).2.2.1

theorem unpaddedChars (data : Bytes) : ∀ c ∈ unpadded data, ∃ n < 64, c = toUrl (sextetChar n) := by
  obtain ⟨stem,k,shape⟩ := shaped data
  rw [unpaddedShape shape]
  intro c member
  obtain ⟨d,inside,rfl⟩ := List.mem_map.mp member
  obtain ⟨n,small,rfl⟩ := shape.data d inside
  exact ⟨n,small,rfl⟩

theorem unpaddedNoDot (data : Bytes) : '.' ∉ unpadded data := by
  intro member
  obtain ⟨n,small,same⟩ := unpaddedChars data _ member
  exact (sextetFacts n small).2.2.2.1 same.symm

theorem unpaddedAscii (data : Bytes) : ∀ c ∈ unpadded data, c.toNat < 128 := by
  have ascii : ∀ n < 64, (toUrl (sextetChar n)).toNat < 128 := by decide
  intro c member
  obtain ⟨n,small,rfl⟩ := unpaddedChars data c member
  exact ascii n small

theorem repaddedUnpadded (data : Bytes) : repadded (unpadded data) = .ok data := by
  obtain ⟨stem,k,shape⟩ := shaped data
  have pads : (4 - (stem.map toUrl).length % 4) % 4 = k := by
    have few := shape.few
    have whole := shape.whole
    rw [List.length_map]
    omega
  have back : (stem.map toUrl).map ofUrl = stem := by
    rw [List.map_map]
    refine (List.map_congr_left fun c member => ?_).trans (List.map_id stem)
    obtain ⟨n,small,rfl⟩ := shape.data c member
    exact (sextetFacts n small).2.2.2.2.1
  rw [repadded,unpaddedShape shape,pads,urlsafeB64decode,List.map_append,back,List.map_replicate]
  have same : stem ++ List.replicate k (ofUrl '=') = b64encode data := shape.written.symm
  rw [same]
  exact decodeEncode false data

end Moadian.Codec
