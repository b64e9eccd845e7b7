import Moadian.Codec.NumberTrip

/-! What `dumps` writes, `loads` reads back: for values whose objects have each key
once, whose integers are not too long to read and whose floats are read as written. -/
namespace Moadian.Codec

mutual
def Plain : Json → Prop
  | .float _ => False
  | .int n => n.natAbs < 10 ^ maxDigits
  | .arr items => PlainItems items
  | .obj members => (members.map Prod.fst).Nodup ∧ PlainMembers members
  | _ => True

def PlainItems : List Json → Prop
  | [] => True
  | v :: rest => Plain v ∧ PlainItems rest

def PlainMembers : List (String × Json) → Prop
  | [] => True
  | (_,v) :: rest => Plain v ∧ PlainMembers rest
end

def FloatLegible (floats : Floats) : PyFloat → Prop
  | .finite q => FloatText (floats.repr q) ∧ floats.read (floats.repr q) = .finite q
  | _ => False

mutual
def Legible (floats : Floats) : Json → Prop
  | .float f => FloatLegible floats f
  | .int n => n.natAbs < 10 ^ maxDigits
  | .arr items => LegibleItems floats items
  | .obj members => (members.map Prod.fst).Nodup ∧ LegibleMembers floats members
  | _ => True

def LegibleItems (floats : Floats) : List Json → Prop
  | [] => True
  | v :: rest => Legible floats v ∧ LegibleItems floats rest

def LegibleMembers (floats : Floats) : List (String × Json) → Prop
  | [] => True
  | (_,v) :: rest => Legible floats v ∧ LegibleMembers floats rest
end

mutual
theorem plainLegible (floats : Floats) : (v : Json) → Plain v → Legible floats v
  | .null,_ | .bool _,_ | .str _,_ => True.intro
  | .int _,plain => plain
  | .float _,plain => plain.elim
  | .arr items,plain => plainItemsLegible floats items plain
  | .obj members,plain => ⟨plain.1,plainMembersLegible floats members plain.2⟩

theorem plainItemsLegible (floats : Floats) : (items : List Json) → PlainItems items → LegibleItems floats items
  | [],_ => True.intro
  | v :: rest,plain => ⟨plainLegible floats v plain.1,plainItemsLegible floats rest plain.2⟩

theorem plainMembersLegible (floats : Floats) : (members : Dict) → PlainMembers members → LegibleMembers floats members
  | [],_ => True.intro
  | (_,v) :: rest,plain => ⟨plainLegible floats v plain.1,plainMembersLegible floats rest plain.2⟩
end

/-! Strings. -/

theorem hexFacts : ∀ n < 16, hexValue n.digitChar = some n := by decide

theorem hexBack {n : Nat} (small : n < 0x10000) (rest : List Char) : hexUnit (hex4 n ++ rest) = some (n,rest) := by
  simp only [hex4,List.cons_append,List.nil_append,hexUnit,hexFacts (n / 4096) (by omega),hexFacts (n / 256 % 16) (by omega),
    hexFacts (n / 16 % 16) (by omega),hexFacts (n % 16) (by omega),bind,Option.bind_some,Option.some.injEq,Prod.mk.injEq,
    and_true]
  omega

theorem charUnit (c : Char) : unitChar c.toNat = c ∧ isHigh c.toNat = false := by
  have valid := c.valid
  have low : isHigh c.toNat = false ∧ isLow c.toNat = false := by
    simp only [isHigh,isLow,Bool.and_eq_false_iff,decide_eq_false_iff_not]
    simp only [UInt32.isValidChar,Nat.isValidChar] at valid
    have same : c.val.toNat = c.toNat := rfl
    omega
  refine ⟨?_,low.1⟩
  rw [unitChar,low.1,low.2]
  exact Char.ofNat_toNat c

theorem unicodeBack (c : Char) (small : c.toNat < 0x10000) {rest : List Char} (more : rest ≠ []) :
    readUnicode ('u' :: hex4 c.toNat ++ rest) = .ok (c,rest) := by
  have long : ¬('u' :: hex4 c.toNat ++ rest).length ≤ 5 := by
    have := List.length_pos_iff.mpr more
    simp [hex4]
    omega
  obtain ⟨same,low⟩ := charUnit c
  rw [readUnicode,if_neg long]
  simp only [List.cons_append,List.drop_succ_cons,List.drop_zero,hexBack small rest,low,same]
  rfl

theorem readPair {high low : Nat} (first : isHigh high = true) (second : isLow low = true) {rest : List Char}
    (more : rest ≠ []) : readUnicode ('u' :: hex4 high ++ (escapeUnit low ++ rest)) =
      .ok (Char.ofNat (0x10000 + (high - 0xD800) * 1024 + (low - 0xDC00)),rest) := by
  have some_ := List.length_pos_iff.mpr more
  have highSmall : high < 0x10000 := by
    simp only [isHigh,Bool.and_eq_true,decide_eq_true_eq] at first
    omega
  have lowSmall : low < 0x10000 := by
    simp only [isLow,Bool.and_eq_true,decide_eq_true_eq] at second
    omega
  have long : ¬('u' :: hex4 high ++ (escapeUnit low ++ rest)).length ≤ 5 := by simp [hex4,escapeUnit]
  have after : 6 < (escapeUnit low ++ rest).length := by
    simp only [hex4,escapeUnit,List.length_append,List.length_cons,List.length_nil]
    omega
  have another : (escapeUnit low ++ rest).drop 2 = hex4 low ++ rest := rfl
  rw [readUnicode,if_neg long]
  have unit : ('u' :: hex4 high ++ (escapeUnit low ++ rest)).drop 1 = hex4 high ++ (escapeUnit low ++ rest) := rfl
  simp only [unit,hexBack highSmall]
  rw [if_pos ⟨first,after,rfl⟩,another]
  simp only [hexBack lowSmall]
  rw [if_pos second]

theorem pairBack (c : Char) (large : ¬c.toNat < 0x10000) {rest : List Char} (more : rest ≠ []) :
    readUnicode ('u' :: hex4 (0xD800 + (c.toNat - 0x10000) / 1024) ++
      (escapeUnit (0xDC00 + (c.toNat - 0x10000) % 1024) ++ rest)) = .ok (c,rest) := by
  have top : c.toNat < 0x110000 := by
    have valid := c.valid
    simp only [UInt32.isValidChar,Nat.isValidChar] at valid
    have same : c.val.toNat = c.toNat := rfl
    omega
  have high : isHigh (0xD800 + (c.toNat - 0x10000) / 1024) = true := by
    simp only [isHigh,Bool.and_eq_true,decide_eq_true_eq]
    omega
  have low : isLow (0xDC00 + (c.toNat - 0x10000) % 1024) = true := by
    simp only [isLow,Bool.and_eq_true,decide_eq_true_eq]
    omega
  have joined : 0x10000 + (0xD800 + (c.toNat - 0x10000) / 1024 - 0xD800) * 1024 +
      (0xDC00 + (c.toNat - 0x10000) % 1024 - 0xDC00) = c.toNat := by omega
  rw [readPair high low more,joined,Char.ofNat_toNat]

theorem readU (quote rest : List Char) : readEscape quote ('\\' :: 'u' :: rest) = readUnicode ('u' :: rest) := rfl

def shorts : List (Char × Char) :=
  [('"','"'),('\\','\\'),('n','\n'),('r','\r'),('t','\t'),('f','\x0c'),('b','\x08')]

/- The shapes in which a character is written. -/
inductive Escaped (c : Char) : List Char → Prop where
  | short {letter : Char} (stands : (letter,c) ∈ shorts) : Escaped c ['\\',letter]
  | unit (small : c.toNat < 0x10000) : Escaped c (escapeUnit c.toNat)
  | pair (large : ¬ c.toNat < 0x10000) :
    Escaped c (escapeUnit (0xD800 + (c.toNat - 0x10000) / 1024) ++ escapeUnit (0xDC00 + (c.toNat - 0x10000) % 1024))
  | plain (notQuote : c ≠ '"') (notSlash : c ≠ '\\') (printable : ¬ c.toNat < 32) : Escaped c [c]

theorem escaped (ascii : Bool) (c : Char) : Escaped c (escape ascii c) := by
  unfold escape
  by_cases quote : c = '"'
  · rw [if_pos quote]; exact .short (by simp [quote,shorts])
  rw [if_neg quote]
  by_cases slash : c = '\\'
  · rw [if_pos slash]; exact .short (by simp [slash,shorts])
  rw [if_neg slash]
  by_cases line : c = '\n'
  · rw [if_pos line]; exact .short (by simp [line,shorts])
  rw [if_neg line]
  by_cases return_ : c = '\r'
  · rw [if_pos return_]; exact .short (by simp [return_,shorts])
  rw [if_neg return_]
  by_cases tab : c = '\t'
  · rw [if_pos tab]; exact .short (by simp [tab,shorts])
  rw [if_neg tab]
  by_cases feed : c = '\x0c'
  · rw [if_pos feed]; exact .short (by simp [feed,shorts])
  rw [if_neg feed]
  by_cases back : c = '\x08'
  · rw [if_pos back]; exact .short (by simp [back,shorts])
  rw [if_neg back]
  by_cases control : c.toNat < 32
  · rw [if_pos control]; exact .unit (by omega)
  rw [if_neg control]
  by_cases beyond : ascii = true ∧ 126 < c.toNat
  · rw [if_pos beyond]
    by_cases small : c.toNat < 0x10000
    · rw [if_pos small]; exact .unit small
    · rw [if_neg small]; exact .pair small
  · rw [if_neg beyond]; exact .plain quote slash control

theorem scanEscaped (ascii : Bool) (quote : List Char) (fuel : Nat) (c : Char) {rest : List Char} (more : rest ≠ []) :
    scanString quote (fuel + 1) (escape ascii c ++ rest) =
      (scanString quote fuel rest).bind (fun (text,after) => .ok (c :: text,after)) := by
  have slashed : ∀ {here after : List Char}, readEscape quote ('\\' :: here) = .ok (c,after) →
      scanString quote (fuel + 1) ('\\' :: here) = (scanString quote fuel after).bind (fun (text,after) => .ok (c :: text,after)) := by
    intro here after read
    rw [scanString,if_neg (by decide),if_pos rfl,read]
    rfl
  have shape := escaped ascii c
  generalize escape ascii c = text at shape ⊢
  cases shape with
  | short stands =>
    refine slashed ?_
    simp only [shorts,List.mem_cons,Prod.mk.injEq,List.not_mem_nil,or_false] at stands
    rcases stands with ⟨rfl,rfl⟩ | ⟨rfl,rfl⟩ | ⟨rfl,rfl⟩ | ⟨rfl,rfl⟩ | ⟨rfl,rfl⟩ | ⟨rfl,rfl⟩ | ⟨rfl,rfl⟩ <;> rfl
  | unit small => exact slashed ((readU quote _).trans (unicodeBack c small more))
  | pair large =>
    rw [List.append_assoc]
    exact slashed ((readU quote _).trans (pairBack c large more))
  | plain notQuote notSlash printable =>
    rw [List.singleton_append,scanString,if_neg notQuote,if_neg notSlash,if_neg printable]
    rfl

theorem scanFlat (ascii : Bool) (quote rest : List Char) (text : List Char) {fuel : Nat} (enough : text.length < fuel) :
    scanString quote fuel (text.flatMap (escape ascii) ++ '"' :: rest) = .ok (text,rest) := by
  induction text generalizing fuel with
  | nil =>
    obtain ⟨fuel,rfl⟩ := Nat.exists_eq_add_of_lt enough
    simp [scanString]
  | cons c text ih =>
    cases fuel with
    | zero => omega
    | succ fuel =>
      have later : scanString quote fuel (text.flatMap (escape ascii) ++ '"' :: rest) = .ok (text,rest) := ih (by simpa using enough)
      rw [List.flatMap_cons,List.append_assoc,scanEscaped ascii quote fuel c (by simp),later]
      rfl

/-! One step of the reader at a time. -/

theorem skipText {c : Char} {rest : List Char} (text : isBlank c = false) : skip (c :: rest) = c :: rest := by
  rw [skip,List.dropWhile_cons_of_neg (by simp [text])]

theorem skipBlanks {gap rest : List Char} (blank : ∀ c ∈ gap, isBlank c = true) : skip (gap ++ rest) = skip rest :=
  List.dropWhile_append_of_pos blank

theorem newlineBlank (s : Style) (level : Nat) : ∀ c ∈ s.newline level, isBlank c = true := by
  intro c member
  unfold Style.newline at member
  split at member
  · cases member
  · rcases List.mem_cons.mp member with rfl | later
    · rfl
    · rw [List.eq_of_mem_replicate later]
      rfl

theorem spacesBlank (n : Nat) : ∀ c ∈ List.replicate n ' ', isBlank c = true := by
  intro c member
  rw [List.eq_of_mem_replicate member]
  rfl

section Reader
variable {floats : Floats} {fuel : Nat} {here rest after more : List Char} {v : Json}

theorem opensList {c : Char} (next : skip rest = c :: more) (other : c ≠ ']') :
    scanValue floats (fuel + 1) ('[' :: rest) = scanItems floats fuel [] (c :: more) := by
  rw [scanValue,if_neg (by decide),if_neg (by decide),if_pos rfl,next]
  split
  · rename_i same
    cases same
    exact absurd rfl other
  · rfl

theorem opensObject (next : skip rest = '"' :: more) :
    scanValue floats (fuel + 1) ('{' :: rest) = scanMembers floats fuel [] ('"' :: more) := by
  rw [scanValue,if_neg (by decide),if_pos rfl,next]
  rfl

theorem lastItem {done : List Json} (read : scanValue floats fuel here = .ok (v,after)) (next : skip after = ']' :: more) :
    scanItems floats (fuel + 1) done here = .ok (.arr (done ++ [v]),more) := by
  simp only [scanItems,read,bind,Except.bind,next]

theorem nextItem {done : List Json} (read : scanValue floats fuel here = .ok (v,after)) (next : skip after = ',' :: more) :
    scanItems floats (fuel + 1) done here = scanItems floats fuel (done ++ [v]) (skip more) := by
  simp only [scanItems,read,bind,Except.bind,next]

section Member
variable {done : Dict} {key value colon : List Char}
  (named : scanString ('"' :: rest) (rest.length + 1) rest = .ok (key,colon)) (colons : skip colon = ':' :: value)
  (read : scanValue floats fuel (skip value) = .ok (v,after))
include named colons read

theorem lastMember (next : skip after = '}' :: more) : scanMembers floats (fuel + 1) done ('"' :: rest) =
    .ok (.obj (Json.setMember (String.ofList key) v done),more) := by
  simp only [scanMembers,named,bind,Except.bind,colons,read,next]

theorem nextMember (next : skip after = ',' :: more) : scanMembers floats (fuel + 1) done ('"' :: rest) =
    scanMembers floats fuel (Json.setMember (String.ofList key) v done) (skip more) := by
  simp only [scanMembers,named,bind,Except.bind,colons,read,next]

end Member
end Reader

theorem escapeSome (ascii : Bool) (c : Char) : 1 ≤ (escape ascii c).length := by
  have shape := escaped ascii c
  generalize escape ascii c = text at shape ⊢
  cases shape <;> simp [escapeUnit]

theorem readQuoted (ascii : Bool) (quote text tail : List Char) :
    scanString quote ((text.flatMap (escape ascii) ++ '"' :: tail).length + 1) (text.flatMap (escape ascii) ++ '"' :: tail) =
      .ok (text,tail) := by
  have long : text.length ≤ (text.flatMap (escape ascii)).length := by
    induction text with
    | nil => exact Nat.zero_le _
    | cons c text ih =>
      have one := escapeSome ascii c
      rw [List.flatMap_cons,List.length_append,List.length_cons]
      omega
  refine scanFlat ascii quote tail text ?_
  rw [List.length_append]
  omega

theorem setFresh {k : String} {v : Json} {done : Dict} (fresh : k ∉ done.map Prod.fst) :
    Json.setMember k v done = done ++ [(k,v)] := by
  have absent : done.any (fun m => m.1 == k) = false := by
    rw [List.any_eq_false]
    rintro m member same
    exact fresh (List.mem_map.mpr ⟨m,member,by simpa using same⟩)
  rw [Json.setMember,absent]
  rfl

/-! Values: the fuel they need, and how their text begins. -/

mutual
def weight : Json → Nat
  | .arr items => weightItems items + 1
  | .obj members => weightMembers members + 1
  | _ => 1

def weightItems : List Json → Nat
  | [] => 0
  | v :: rest => weight v + weightItems rest + 1

def weightMembers : List (String × Json) → Nat
  | [] => 0
  | (_,v) :: rest => weight v + weightMembers rest + 1
end

theorem intBegins (n : Int) : ∃ c rest, intText n = c :: rest ∧ (c.isDigit = true ∨ c = '-' ∧ ∃ d more, rest = d :: more ∧ d.isDigit = true) := by
  have all := digitsAll (n := n.natAbs)
  unfold intText
  cases shape : Nat.toDigits 10 n.natAbs with
  | nil => exact absurd shape Nat.toDigits_ne_nil
  | cons c rest =>
    rw [shape] at all
    have digit := all c List.mem_cons_self
    split
    · exact ⟨_,_,rfl,.inr ⟨rfl,c,rest,rfl,digit⟩⟩
    · exact ⟨_,_,rfl,.inl digit⟩

theorem numberBegins {text : List Char} (number : ∃ c rest, text = c :: rest ∧ (c.isDigit = true ∨ c = '-' ∧
    ∃ d more, rest = d :: more ∧ d.isDigit = true)) : ∃ c rest, text = c :: rest ∧ isBlank c = false ∧ c ≠ ']' := by
  obtain ⟨c,rest,shape,number⟩ := number
  refine ⟨c,rest,shape,?_⟩
  rcases number with digit | ⟨rfl,_⟩
  · constructor
    · simp only [isBlank,Bool.or_eq_false_iff,beq_eq_false_iff_ne]
      refine ⟨⟨⟨?_,?_⟩,?_⟩,?_⟩ <;> rintro rfl <;> exact absurd digit (by decide)
    · rintro rfl
      exact absurd digit (by decide)
  · exact ⟨rfl,by decide⟩

theorem begins (floats : Floats) (s : Style) (level : Nat) {v : Json} (plain : Legible floats v) :
    ∃ c rest, dump floats s level v = c :: rest ∧ isBlank c = false ∧ c ≠ ']' := by
  cases v with
  | null => exact ⟨'n',_,rfl,rfl,by decide⟩
  | bool b => cases b with
    | true => exact ⟨'t',_,rfl,rfl,by decide⟩
    | false => exact ⟨'f',_,rfl,rfl,by decide⟩
  | int n => exact numberBegins (intBegins n)
  | float f => cases f with
    | finite q => exact numberBegins (floatBegins plain.1)
    | nan => exact plain.elim
    | infinite negative => exact plain.elim
  | str t => exact ⟨'"',_,rfl,rfl,by decide⟩
  | arr items => cases items with
    | nil => exact ⟨'[',_,rfl,rfl,by decide⟩
    | cons v rest => exact ⟨'[',_,rfl,rfl,by decide⟩
  | obj members => cases members with
    | nil => exact ⟨'{',_,rfl,rfl,by decide⟩
    | cons m rest => exact ⟨'{',_,rfl,rfl,by decide⟩

theorem skipDump (floats : Floats) (s : Style) (level : Nat) {v : Json} (plain : Legible floats v) (tail : List Char) :
    skip (dump floats s level v ++ tail) = dump floats s level v ++ tail := by
  obtain ⟨c,rest,shape,text,_⟩ := begins floats s level plain
  rw [shape]
  exact skipText text

theorem numberRead (floats : Floats) {text tail : List Char} {v : Json} (number : ∃ c rest, text = c :: rest ∧
    (c.isDigit = true ∨ c = '-' ∧ ∃ d more, rest = d :: more ∧ d.isDigit = true))
    (read : scanNumber floats (text ++ tail) = .ok (v,tail)) (fuel : Nat) :
    scanValue floats (fuel + 1) (text ++ tail) = .ok (v,tail) := by
  obtain ⟨c,rest,shape,number⟩ := number
  rw [shape,List.cons_append] at read ⊢
  have notLiteral : scanLiteral (c :: (rest ++ tail)) = none := by
    rcases number with digit | ⟨rfl,d,more,rfl,digit⟩
    · have other : ∀ l ∈ literals, ∃ d more, l.1 = d :: more ∧ c ≠ d := by
        simp only [literals,List.mem_cons,List.not_mem_nil,or_false]
        rintro l (rfl | rfl | rfl | rfl | rfl | rfl) <;> refine ⟨_,_,rfl,?_⟩ <;> rintro rfl <;> exact absurd digit (by decide)
      rw [scanLiteral,List.findSome?_eq_none_iff]
      intro l member
      obtain ⟨d,more,is,ne⟩ := other l member
      rw [is,if_neg]
      rintro ⟨_,same⟩
      exact ne (List.cons.inj same).1.symm
    · have other : d ≠ 'I' := by
        rintro rfl
        exact absurd digit (by decide)
      simp [scanLiteral,literals,other.symm]
  have quote : c ≠ '"' ∧ c ≠ '{' ∧ c ≠ '[' := by
    rcases number with digit | ⟨rfl,_⟩
    · refine ⟨?_,?_,?_⟩ <;> rintro rfl <;> exact absurd digit (by decide)
    · decide
  rw [scanValue,if_neg quote.1,if_neg quote.2.1,if_neg quote.2.2,notLiteral]
  exact read

theorem endsGap {gap tail : List Char} (blank : ∀ c ∈ gap, isBlank c = true) (ends : Ends tail) : Ends (gap ++ tail) := by
  cases gap with
  | nil => exact ends
  | cons c more =>
    have blank := blank c List.mem_cons_self
    simp only [isBlank,Bool.or_eq_true,beq_iff_eq] at blank
    rcases blank with ((rfl | rfl) | rfl) | rfl <;> exact endsCons rfl (by decide) (by decide) (by decide)

theorem freshKey {k : String} {v : Json} {done rest : Dict} (nodup : ((done ++ (k,v) :: rest).map Prod.fst).Nodup) :
    k ∉ done.map Prod.fst := by
  rw [List.map_append,List.map_cons] at nodup
  exact fun inside => (List.nodup_append.mp nodup).2.2 k inside k List.mem_cons_self rfl

theorem skipColon (s : Style) {text : List Char} (begins : skip text = text) :
    skip (List.replicate s.keyGap ' ' ++ text) = text := by
  rw [skipBlanks (spacesBlank s.keyGap),begins]

theorem colonFirst (s : Style) (text : List Char) : skip (s.colon ++ text) = ':' :: (List.replicate s.keyGap ' ' ++ text) :=
  skipText rfl

theorem quotedText (s : Style) (k : String) (tail : List Char) : quoted s.ensureAscii k.toList ++ tail =
    '"' :: (k.toList.flatMap (escape s.ensureAscii) ++ '"' :: tail) := by
  simp [quoted]

mutual
theorem readValue (floats : Floats) (s : Style) (level : Nat) : (v : Json) → Legible floats v → (fuel : Nat) → weight v ≤ fuel →
    (tail : List Char) → Ends tail → scanValue floats fuel (dump floats s level v ++ tail) = .ok (v,tail)
  | .null,_,_ + 1,_,_,_ => rfl
  | .bool true,_,_ + 1,_,_,_ => rfl
  | .bool false,_,_ + 1,_,_,_ => rfl
  | .int n,plain,fuel + 1,_,_,ends => numberRead floats (intBegins n) (numberBack floats plain ends) fuel
  | .float (.finite q),plain,fuel + 1,_,tail,ends => by
    have read := floatBack floats plain.1 ends
    rw [plain.2] at read
    exact numberRead floats (floatBegins plain.1) read fuel
  | .float .nan,plain,_,_,_,_ | .float (.infinite _),plain,_,_,_,_ => plain.elim
  | .str t,_,fuel + 1,_,tail,_ => by
    have read := readQuoted s.ensureAscii ('"' :: (t.toList.flatMap (escape s.ensureAscii) ++ '"' :: tail)) t.toList tail
    rw [dump,quotedText,scanValue,if_pos rfl,read]
    simp only [bind,Except.bind,String.ofList_toList]
  | .arr [],_,_ + 1,_,_,_ => rfl
  | .arr (v :: rest),plain,fuel + 1,enough,tail,_ => by
    obtain ⟨c,more,shape,text,other⟩ := begins floats s (level + 1) plain.1
    have items := readItems floats s (level + 1) level tail v rest plain [] fuel (by simp only [weight] at enough; omega)
    simp only [dump,List.cons_append,List.append_assoc,List.nil_append] at items ⊢
    rw [opensList (c := c) _ other,← List.cons_append,← shape]
    · exact items
    · rw [skipBlanks (newlineBlank s (level + 1)),shape,List.cons_append,skipText text]
  | .obj [],_,_ + 1,_,_,_ => rfl
  | .obj ((k,v) :: rest),plain,fuel + 1,enough,tail,_ => by
    have members := readMembers floats s (level + 1) level tail k v rest plain.2 [] plain.1 fuel
      (by simp only [weight] at enough; omega)
    simp only [dump,quoted,List.cons_append,List.append_assoc,List.nil_append] at members ⊢
    rw [opensObject]
    · exact members
    · rw [skipBlanks (newlineBlank s (level + 1)),skipText rfl]
termination_by _ _ fuel => fuel

theorem readItems (floats : Floats) (s : Style) (level outer : Nat) (tail : List Char) : (v : Json) → (rest : List Json) →
    LegibleItems floats (v :: rest) → (done : List Json) → (fuel : Nat) → weightItems (v :: rest) ≤ fuel →
      scanItems floats fuel done (dump floats s level v ++ (dumpItems floats s level rest ++ (s.newline outer ++ ']' :: tail))) =
        .ok (.arr (done ++ v :: rest),tail)
  | v,[],plain,done,fuel + 1,enough => by
    have ends : Ends (s.newline outer ++ ']' :: tail) :=
      endsGap (newlineBlank s outer) (endsCons rfl (by decide) (by decide) (by decide))
    have value := readValue floats s level v plain.1 fuel (by simp only [weightItems] at enough; omega) _ ends
    refine lastItem value ?_
    rw [skipBlanks (newlineBlank s outer),skipText rfl]
  | v,w :: rest,plain,done,fuel + 1,enough => by
    have ends : Ends (dumpItems floats s level (w :: rest) ++ (s.newline outer ++ ']' :: tail)) :=
      endsCons rfl (by decide) (by decide) (by decide)
    have value := readValue floats s level v plain.1 fuel (by simp only [weightItems] at enough; omega) _ ends
    have later := readItems floats s level outer tail w rest plain.2 (done ++ [v]) fuel
      (by simp only [weightItems] at enough ⊢; omega)
    have following : skip (dumpItems floats s level (w :: rest) ++ (s.newline outer ++ ']' :: tail)) =
        ',' :: (List.replicate s.itemGap ' ' ++ (s.newline level ++ (dump floats s level w ++
          (dumpItems floats s level rest ++ (s.newline outer ++ ']' :: tail))))) := by
      rw [dumpItems,Style.comma]
      simp only [List.cons_append,List.append_assoc]
      exact skipText rfl
    rw [nextItem value following,skipBlanks (spacesBlank s.itemGap),skipBlanks (newlineBlank s level),
      skipDump floats s level plain.2.1,later,List.append_assoc]
    rfl
termination_by _ _ _ _ fuel => fuel

theorem readMembers (floats : Floats) (s : Style) (level outer : Nat) (tail : List Char) : (k : String) → (v : Json) → (rest : Dict) →
    LegibleMembers floats ((k,v) :: rest) → (done : Dict) → ((done ++ (k,v) :: rest).map Prod.fst).Nodup → (fuel : Nat) →
      weightMembers ((k,v) :: rest) ≤ fuel →
      scanMembers floats fuel done (quoted s.ensureAscii k.toList ++ (s.colon ++ (dump floats s level v ++
        (dumpMembers floats s level rest ++ (s.newline outer ++ '}' :: tail))))) = .ok (.obj (done ++ (k,v) :: rest),tail)
  | k,v,[],plain,done,nodup,fuel + 1,enough => by
    have ends : Ends (s.newline outer ++ '}' :: tail) :=
      endsGap (newlineBlank s outer) (endsCons rfl (by decide) (by decide) (by decide))
    have value := readValue floats s level v plain.1 fuel (by simp only [weightMembers] at enough; omega) _ ends
    have closing : skip (s.newline outer ++ '}' :: tail) = '}' :: tail := by
      rw [skipBlanks (newlineBlank s outer),skipText rfl]
    rw [← skipColon s (skipDump floats s level plain.1 _)] at value
    rw [dumpMembers,List.nil_append,quotedText,
      lastMember (readQuoted s.ensureAscii _ k.toList _) (colonFirst s _) value closing,String.ofList_toList,
      setFresh (freshKey nodup)]
  | k,v,(l,w) :: rest,plain,done,nodup,fuel + 1,enough => by
    have ends : Ends (dumpMembers floats s level ((l,w) :: rest) ++ (s.newline outer ++ '}' :: tail)) :=
      endsCons rfl (by decide) (by decide) (by decide)
    have value := readValue floats s level v plain.1 fuel (by simp only [weightMembers] at enough; omega) _ ends
    have later := readMembers floats s level outer tail l w rest plain.2 (done ++ [(k,v)])
      (by rw [List.append_assoc]; exact nodup) fuel (by simp only [weightMembers] at enough ⊢; omega)
    have following : skip (dumpMembers floats s level ((l,w) :: rest) ++ (s.newline outer ++ '}' :: tail)) =
        ',' :: (List.replicate s.itemGap ' ' ++ (s.newline level ++ (quoted s.ensureAscii l.toList ++ (s.colon ++
          (dump floats s level w ++ (dumpMembers floats s level rest ++ (s.newline outer ++ '}' :: tail))))))) := by
      rw [dumpMembers,Style.comma]
      simp only [List.cons_append,List.append_assoc]
      exact skipText rfl
    rw [← skipColon s (skipDump floats s level plain.1 _)] at value
    rw [quotedText,nextMember (readQuoted s.ensureAscii _ k.toList _) (colonFirst s _) value following,String.ofList_toList,
      setFresh (freshKey nodup),skipBlanks (spacesBlank s.itemGap),skipBlanks (newlineBlank s level)]
    rw [quotedText] at later ⊢
    rw [skipText rfl,later,List.append_assoc]
    rfl
termination_by _ _ _ _ _ _ fuel => fuel
end

theorem numberLong {text : List Char} {P : Char → List Char → Prop} (number : ∃ c rest, text = c :: rest ∧ P c rest) :
    1 ≤ text.length := by
  obtain ⟨c,rest,rfl,_⟩ := number
  simp

mutual
theorem weightText (floats : Floats) (s : Style) (level : Nat) : (v : Json) → Legible floats v → weight v ≤ (dump floats s level v).length
  | .null,_ | .bool true,_ | .bool false,_ => by simp [weight,dump]
  | .int n,_ => numberLong (intBegins n)
  | .float (.finite _),plain => numberLong (floatBegins plain.1)
  | .float .nan,plain | .float (.infinite _),plain => plain.elim
  | .str t,_ => by simp [weight,dump,quoted]
  | .arr [],_ => by simp [weight,weightItems,dump]
  | .arr (v :: rest),plain => by
    have here := weightText floats s (level + 1) v plain.1
    have later := weightItemsText floats s (level + 1) rest plain.2
    simp only [weight,weightItems,dump,List.length_append,List.length_cons,List.length_nil]
    omega
  | .obj [],_ => by simp [weight,weightMembers,dump]
  | .obj ((k,v) :: rest),plain => by
    have here := weightText floats s (level + 1) v plain.2.1
    have later := weightMembersText floats s (level + 1) rest plain.2.2
    simp only [weight,weightMembers,dump,List.length_append,List.length_cons,List.length_nil]
    omega

theorem weightItemsText (floats : Floats) (s : Style) (level : Nat) : (items : List Json) → LegibleItems floats items →
    weightItems items ≤ (dumpItems floats s level items).length
  | [],_ => Nat.zero_le _
  | v :: rest,plain => by
    have here := weightText floats s level v plain.1
    have later := weightItemsText floats s level rest plain.2
    simp only [weightItems,dumpItems,Style.comma,List.length_append,List.length_cons]
    omega

theorem weightMembersText (floats : Floats) (s : Style) (level : Nat) : (members : Dict) → LegibleMembers floats members →
    weightMembers members ≤ (dumpMembers floats s level members).length
  | [],_ => Nat.zero_le _
  | (k,v) :: rest,plain => by
    have here := weightText floats s level v plain.1
    have later := weightMembersText floats s level rest plain.2
    simp only [weightMembers,dumpMembers,Style.comma,List.length_append,List.length_cons]
    omega
end

theorem rawLegible (floats : Floats) (s : Style) {v : Json} (plain : Legible floats v) : raw floats (dumps floats s v) = .ok v := by
  have enough := weightText floats s 0 v plain
  have read := readValue floats s 0 v plain ((dump floats s 0 v).length + 1) (by omega) [] (by rintro c ⟨⟩)
  have start := skipDump floats s 0 plain []
  rw [List.append_nil] at read start
  rw [raw,dumps,start,read]
  rfl

theorem rawDumps (floats : Floats) (s : Style) {v : Json} (plain : Plain v) : raw floats (dumps floats s v) = .ok v :=
  rawLegible floats s (plainLegible floats v plain)

/-! No text that is written has a carriage return in it, so a reader of lines finds it as it is. -/

theorem notReturn {c : Char} (digit : c.isDigit = true) : c ≠ '\r' := by
  rintro rfl
  cases digit

theorem escapeNoReturn (ascii : Bool) (c : Char) : '\r' ∉ escape ascii c := by
  have hex : ∀ n < 16, n.digitChar ≠ '\r' := by decide
  have unit : ∀ n, n < 0x10000 → '\r' ∉ escapeUnit n := by
    intro n small
    have digits := And.intro (hex (n / 4096) (by omega)) (And.intro (hex (n / 256 % 16) (by omega))
      (And.intro (hex (n / 16 % 16) (by omega)) (hex (n % 16) (by omega))))
    simp [escapeUnit,hex4,digits.1.symm,digits.2.1.symm,digits.2.2.1.symm,digits.2.2.2.symm]
  have top : c.toNat < 0x110000 := by
    have valid := c.valid
    simp only [UInt32.isValidChar,Nat.isValidChar] at valid
    change c.val.toNat < _
    omega
  have shape := escaped ascii c
  generalize escape ascii c = text at shape ⊢
  cases shape with
  | short stands =>
    have letters : ∀ s ∈ shorts, s.1 ≠ '\r' := by decide
    simpa using (letters _ stands).symm
  | unit small => exact unit _ small
  | pair large =>
    rw [List.mem_append,not_or]
    exact ⟨unit _ (by omega),unit _ (by omega)⟩
  | plain notQuote notSlash printable =>
    have other : c ≠ '\r' := by
      rintro rfl
      exact printable (by decide)
    simpa using other.symm

theorem quotedNoReturn (ascii : Bool) (text : List Char) : '\r' ∉ quoted ascii text := by
  simp only [quoted,List.cons_append,List.mem_cons,List.mem_append,List.mem_flatMap,List.not_mem_nil,or_false,not_or,
    not_exists,not_and]
  exact ⟨by decide,fun c _ => escapeNoReturn ascii c,by decide⟩

theorem blankNoReturn (s : Style) (level : Nat) : '\r' ∉ s.newline level ∧ '\r' ∉ s.comma ∧ '\r' ∉ s.colon := by
  refine ⟨?_,by simp [Style.comma],by simp [Style.colon]⟩
  unfold Style.newline
  split <;> simp

theorem intNoReturn (n : Int) : '\r' ∉ intText n := by
  unfold intText
  split
  · simpa using fun member => notReturn (digitsAll _ member) rfl
  · exact fun member => notReturn (digitsAll _ member) rfl

mutual
theorem dumpNoReturn (floats : Floats) (s : Style) (level : Nat) : (v : Json) → Plain v → '\r' ∉ dump floats s level v
  | .null,_ | .bool true,_ | .bool false,_ | .arr [],_ | .obj [],_ => by simp [dump]
  | .int n,_ => by simpa only [dump] using intNoReturn n
  | .str t,_ => by simpa only [dump] using quotedNoReturn s.ensureAscii t.toList
  | .arr (v :: rest),plain => by
    have here := dumpNoReturn floats s (level + 1) v plain.1
    have later := itemsNoReturn floats s (level + 1) rest plain.2
    simp [dump,here,later,(blankNoReturn s (level + 1)).1,(blankNoReturn s level).1]
  | .obj ((k,v) :: rest),plain => by
    have here := dumpNoReturn floats s (level + 1) v plain.2.1
    have later := membersNoReturn floats s (level + 1) rest plain.2.2
    simp [dump,here,later,quotedNoReturn,blankNoReturn s (level + 1),(blankNoReturn s level).1]

theorem itemsNoReturn (floats : Floats) (s : Style) (level : Nat) : (items : List Json) → PlainItems items →
    '\r' ∉ dumpItems floats s level items
  | [],_ => by simp [dumpItems]
  | v :: rest,plain => by
    have here := dumpNoReturn floats s level v plain.1
    have later := itemsNoReturn floats s level rest plain.2
    simp [dumpItems,here,later,blankNoReturn s level]

theorem membersNoReturn (floats : Floats) (s : Style) (level : Nat) : (members : Dict) → PlainMembers members →
    '\r' ∉ dumpMembers floats s level members
  | [],_ => by simp [dumpMembers]
  | (k,v) :: rest,plain => by
    have here := dumpNoReturn floats s level v plain.1
    have later := membersNoReturn floats s level rest plain.2
    simp [dumpMembers,here,later,quotedNoReturn,blankNoReturn s level]
end

end Moadian.Codec
