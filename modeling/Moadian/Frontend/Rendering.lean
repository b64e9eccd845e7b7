import Mathlib.Data.List.Forall2
import Moadian.Frontend.Markdown

/-! What becomes of the lines: each turn takes some off the front until none is left, and a
turn's block holds the text of what it took, but for the line a table skips. -/
namespace Moadian.Markdown
open Codec

def foreign (line : Line) : Bool := line.any (fun c => !ruling c)

def Blank (text : Line) : Prop := ∀ c ∈ text, blank c = true

def Padded (segment cell : Line) : Prop := ∃ before after, Blank before ∧ Blank after ∧ segment = before ++ cell ++ after

def RowOf (line : Line) (cells : List Line) : Prop :=
  ∃ opening segments closing, (opening = [] ∨ opening = ['|']) ∧ (closing = [] ∨ closing = ['|']) ∧
    line = opening ++ join '|' segments ++ closing ∧ List.Forall₂ Padded segments cells

def Block.Marker : Block → Line → Prop
  | .heading level _,m => ∃ space, space ≠ [] ∧ Blank space ∧ m = List.replicate level '#' ++ space
  | .blockquote _,m => m = ['>'] ∨ ∃ c, blank c = true ∧ m = ['>',c]
  | .ul _,m => ∃ indent c space, Blank indent ∧ (c = '-' ∨ c = '*') ∧ space ≠ [] ∧ Blank space ∧ m = indent ++ c :: space
  | .pre _,m | .table _ _,m | .p _,m => m = []

def Block.TextOf (block : Block) (line text : Line) : Prop := ∃ m, block.Marker m ∧ line = m ++ text

def Block.Holds : Block → List Line → Prop
  | .pre body,kept => body = join '\n' kept
  | .heading level nodes,kept => ∃ line, kept = [line] ∧ (Block.heading level nodes).TextOf line (written nodes)
  | .blockquote nodes,kept => ∃ texts, List.Forall₂ (Block.blockquote nodes).TextOf kept texts ∧ written nodes = join ' ' texts
  | .table head rows,kept => List.Forall₂ RowOf kept ((head :: rows).map (fun cells => cells.map written))
  | .ul items,kept => List.Forall₂ (Block.ul items).TextOf kept (items.map written)
  | .p nodes,kept => written nodes = join ' ' kept

def textless : Option Block → Line → Bool
  | some (.pre _),line => fence line || !foreign line
  | _,line => !foreign line

def Whole (consumed : List Line) : Option Block → Prop
  | none => ∀ line ∈ consumed, textless none line = true
  | some block => ∃ kept, (consumed.filter (fun line => !textless (some block) line)).Sublist kept ∧ kept.Sublist consumed ∧
      block.Holds kept

-- The line that a table is about to skip is a separator to its end.
def Ruled : List Line → Prop
  | line :: next :: rest => kind line (next :: rest) = .table → foreign next = false
  | _ => True

/-! Texts. -/

theorem writtenFrom (before text : Line) : written (inlineFrom before text) = before ++ text := by
  have flushed : ∀ before, written (plain before) = before := by
    intro before
    unfold plain
    split
    · rename_i empty
      rw [empty]
      rfl
    · simp [written,Node.written]
  fun_induction inlineFrom before text with
  | case1 before text node later found ih =>
    obtain ⟨rfl,_⟩ := tokenSplit found
    have parts : written (plain before ++ node :: inlineFrom [] later) =
        written (plain before) ++ (node.written ++ written (inlineFrom [] later)) := by simp [written]
    rw [parts,flushed,ih,List.nil_append]
  | case2 before found => rw [flushed,List.append_nil]
  | case3 before c rest found ih => rw [ih,List.append_assoc,List.singleton_append]

theorem writtenInline (text : Line) : written (inline text) = text := writtenFrom [] text

theorem splitSome (sep : Char) (text : Line) : ∃ part parts, split sep text = part :: parts := by
  cases text with
  | nil => exact ⟨[],[],rfl⟩
  | cons c rest =>
    unfold split
    split
    · exact ⟨_,_,rfl⟩
    · split
      · exact ⟨_,_,rfl⟩
      · exact ⟨_,_,rfl⟩

theorem joinSplit (sep : Char) (text : Line) : join sep (split sep text) = text := by
  induction text with
  | nil => rfl
  | cons c rest ih =>
    obtain ⟨part,parts,whole⟩ := splitSome sep rest
    rw [whole] at ih
    by_cases own : c = sep
    · rw [split,if_pos own,whole,own]
      exact congrArg (List.cons sep) ih
    · rw [split,if_neg own,whole]
      exact congrArg (List.cons c) ih

theorem blankTake (text : Line) : Blank (text.takeWhile blank) := fun _ member => List.mem_takeWhile_imp member

theorem trimPadded (text : Line) : Padded text (trim text) := by
  refine ⟨text.takeWhile blank,(text.dropWhile blank).rtakeWhile blank,blankTake text,?_,?_⟩
  · intro c member
    exact List.mem_takeWhile_imp (List.mem_reverse.mp member)
  · rw [trim,List.append_assoc,List.rdropWhile_append_rtakeWhile,List.takeWhile_append_dropWhile]

theorem unbarredOf (line : Line) : ∃ opening closing, (opening = [] ∨ opening = ['|']) ∧ (closing = [] ∨ closing = ['|']) ∧
    line = opening ++ unbarred line ++ closing := by
  have led : ∃ opening, (opening = [] ∨ opening = ['|']) ∧ line = opening ++ unled line := by
    unfold unled
    split
    · exact ⟨['|'],.inr rfl,rfl⟩
    · exact ⟨[],.inl rfl,rfl⟩
  obtain ⟨opening,bar,whole⟩ := led
  by_cases last : (unled line).getLast? = some '|'
  · refine ⟨opening,['|'],bar,.inr rfl,?_⟩
    rw [unbarred,if_pos last,List.append_assoc,List.dropLast_append_getLast? '|' last]
    exact whole
  · refine ⟨opening,[],bar,.inl rfl,?_⟩
    rw [unbarred,if_neg last,List.append_nil]
    exact whole

theorem rowOf (line : Line) : RowOf line (splitRow line) := by
  obtain ⟨opening,closing,left_,right_,whole⟩ := unbarredOf line
  refine ⟨opening,split '|' (unbarred line),closing,left_,right_,by rw [joinSplit]; exact whole,?_⟩
  rw [splitRow,List.forall₂_map_right_iff]
  exact List.forall₂_same.mpr (fun segment _ => trimPadded segment)

/-! What is foreign to a separator stays in its cell. -/

theorem foreignAppend (a b : Line) : foreign (a ++ b) = (foreign a || foreign b) := List.any_append

theorem foreignBlank {text : Line} (all : Blank text) : foreign text = false := by
  refine List.any_eq_false.mpr (fun c member other => ?_)
  simp [ruling,all c member] at other

theorem foreignPadded {segment cell : Line} (padded : Padded segment cell) : foreign segment = foreign cell := by
  obtain ⟨before,after,left_,right_,rfl⟩ := padded
  rw [foreignAppend,foreignAppend,foreignBlank left_,foreignBlank right_,Bool.false_or,Bool.or_false]

theorem foreignJoin (segments : List Line) : foreign (join '|' segments) = segments.any foreign := by
  have bar : ∀ text, foreign ('|' :: text) = foreign text := fun text => rfl
  cases segments with
  | nil => rfl
  | cons segment later =>
    rw [join,foreignAppend,List.any_cons]
    congr 1
    induction later with
    | nil => rfl
    | cons next later ih => rw [List.flatMap_cons,foreignAppend,bar,ih,List.any_cons]

theorem foreignRow {line : Line} {cells : List Line} (own : RowOf line cells) : foreign line = cells.any foreign := by
  obtain ⟨opening,segments,closing,left_,right_,rfl,padded⟩ := own
  have bar : ∀ text : Line, text = [] ∨ text = ['|'] → foreign text = false := by
    rintro text (rfl | rfl)
    · rfl
    · rfl
  rw [foreignAppend,foreignAppend,bar opening left_,bar closing right_,Bool.false_or,Bool.or_false,foreignJoin]
  induction padded with
  | nil => rfl
  | cons one _ ih => rw [List.any_cons,List.any_cons,foreignPadded one,ih]

/-! One turn. -/

def Kind.Fits (line : Line) (rest : List Line) : Kind → Prop
  | .blank => trim line = []
  | .fence => Markdown.fence line = true
  | .heading level text => Markdown.heading line = some (level,text)
  | .quote => quoted line = true
  | .table => ∃ next later, rest = next :: later
  | .list => item line = true
  | .paragraph => True

theorem kindFits (line : Line) (rest : List Line) : (kind line rest).Fits line rest := by
  unfold kind
  split
  · rename_i empty
    exact empty
  · split
    · rename_i fenced
      exact fenced
    · split
      · rename_i level text named
        exact named
      · split
        · rename_i quote
          exact quote
        · split
          · rename_i barred
            cases rest with
            | nil => simp at barred
            | cons next later => exact ⟨next,later,rfl⟩
          · split
            · rename_i listed
              exact listed
            · exact True.intro

theorem headingText {line text : Line} {level : Nat} (named : heading line = some (level,text)) (nodes : List Node) :
    (Block.heading level nodes).TextOf line text := by
  unfold heading at named
  dsimp only at named
  split at named
  · rename_i fits
    cases named
    have hashes : line.takeWhile (· = '#') = List.replicate (line.takeWhile (· = '#')).length '#' :=
      List.eq_replicate_iff.mpr ⟨rfl,fun c member => by simpa using List.mem_takeWhile_imp member⟩
    refine ⟨_,⟨(line.dropWhile (· = '#')).takeWhile blank,fits.2.2.1,blankTake _,rfl⟩,?_⟩
    rw [← hashes,List.append_assoc,List.takeWhile_append_dropWhile,List.takeWhile_append_dropWhile]
  · cases named

theorem unquotedText {line : Line} (quote : quoted line = true) (nodes : List Node) :
    (Block.blockquote nodes).TextOf line (unquoted line) := by
  cases line with
  | nil => cases quote
  | cons c rest =>
    have same : c = '>' := by simpa [quoted] using quote
    subst same
    cases rest with
    | nil => exact ⟨['>'],.inl rfl,rfl⟩
    | cons d rest =>
      cases space : blank d with
      | true => exact ⟨['>',d],.inr ⟨d,space,rfl⟩,by simp [unquoted,space]⟩
      | false => exact ⟨['>'],.inl rfl,by simp [unquoted,space]⟩

theorem itemTextOf {line : Line} (listed : item line = true) (items : List (List Node)) :
    (Block.ul items).TextOf line (itemText line) := by
  unfold item at listed
  split at listed
  · rename_i m c rest shape
    rw [Bool.and_eq_true,Bool.or_eq_true,beq_iff_eq,beq_iff_eq] at listed
    have space : (c :: rest).takeWhile blank ≠ [] := by
      rw [List.takeWhile_cons_of_pos listed.2]
      exact List.cons_ne_nil _ _
    refine ⟨_,⟨line.takeWhile blank,m,(c :: rest).takeWhile blank,blankTake _,listed.1,space,blankTake _,rfl⟩,?_⟩
    rw [itemText,shape,List.drop_one,List.tail_cons,List.append_assoc,List.cons_append,List.takeWhile_append_dropWhile,← shape,
      List.takeWhile_append_dropWhile]
  · cases listed

theorem trimBlank {line : Line} (empty : trim line = []) : foreign line = false := by
  obtain ⟨before,after,left_,right_,whole⟩ := trimPadded line
  rw [whole,empty,foreignAppend,foreignAppend,foreignBlank left_,foreignBlank right_]
  rfl

theorem holdsAll {consumed : List Line} {block : Block} (holds : block.Holds consumed) : Whole consumed (some block) :=
  ⟨consumed,List.filter_sublist,List.Sublist.refl _,holds⟩

theorem textsOf {β : Type} {R : Line → β → Prop} {f : Line → β} {ls : List Line} (each : ∀ line ∈ ls, R line (f line)) :
    List.Forall₂ R ls (ls.map f) :=
  List.forall₂_map_right_iff.mpr (List.forall₂_same.mpr each)

theorem rowWritten (line : Line) : (row line).map written = splitRow line := by
  rw [row,List.map_map]
  exact (List.map_congr_left (fun cell _ => writtenInline cell)).trans (List.map_id _)

theorem tableHolds (head : Line) (rows : List Line) : (Block.table (row head) (rows.map row)).Holds (head :: rows) := by
  have cells : ((row head :: rows.map row).map (fun cells => cells.map written)) = (head :: rows).map splitRow := by
    rw [← List.map_cons,List.map_map]
    exact List.map_congr_left (fun line _ => rowWritten line)
  have own : List.Forall₂ RowOf (head :: rows) ((head :: rows).map splitRow) := textsOf (fun line _ => rowOf line)
  rw [← cells] at own
  exact own

theorem listHolds {items : List Line} (all : ∀ line ∈ items, item line = true) :
    (Block.ul (items.map (fun line => inline (itemText line)))).Holds items := by
  have texts : (items.map (fun line => inline (itemText line))).map written = items.map itemText := by
    rw [List.map_map]
    exact List.map_congr_left (fun line _ => writtenInline (itemText line))
  have own := textsOf (fun line member => itemTextOf (all line member) (items.map (fun line => inline (itemText line))))
  rw [← texts] at own
  exact own

theorem foreignCount {kept : List Line} {rows : List (List Line)} (own : List.Forall₂ RowOf kept rows) :
    kept.countP foreign = rows.countP (fun cells => cells.any foreign) := by
  induction own with
  | nil => rfl
  | cons one _ ih => rw [List.countP_cons,List.countP_cons,foreignRow one,ih]

/- A table holds as many lines with something foreign as it has rows with it, so that one
that has skipped such a line has not got them all. -/
theorem tableWhole (head next : Line) (rows : List Line) :
    Whole (head :: next :: rows) (some (.table (row head) (rows.map row))) ↔ foreign next = false := by
  have marks : (fun line => !textless (some (.table (row head) (rows.map row))) line) = foreign :=
    funext (fun line => Bool.not_not (foreign line))
  have counted : (fun line => foreign line && foreign line) = foreign := funext (fun line => Bool.and_self (foreign line))
  unfold Whole
  simp only [marks]
  constructor
  · rintro ⟨kept,enough,_,holds⟩
    have most := enough.countP_le (p := foreign)
    have same : kept.countP foreign = (head :: rows).countP foreign :=
      (foreignCount holds).trans (foreignCount (tableHolds head rows)).symm
    rw [List.countP_filter,counted,same,List.countP_cons,List.countP_cons,List.countP_cons] at most
    cases other : foreign next with
    | false => rfl
    | true =>
      rw [if_pos other] at most
      omega
  · intro ruled
    refine ⟨head :: rows,?_,.cons_cons head (List.sublist_cons_self next rows),tableHolds head rows⟩
    have dropped : (head :: next :: rows).filter foreign = (head :: rows).filter foreign := by
      rw [List.filter_cons,List.filter_cons,List.filter_cons,ruled]
      rfl
    rw [dropped]
    exact List.filter_sublist

theorem fenceWhole {line : Line} (fenced : fence line = true) (rest : List Line) :
    Whole (line :: rest.takeWhile (fun l => !fence l) ++ (rest.dropWhile (fun l => !fence l)).take 1)
      (some (.pre (join '\n' (rest.takeWhile (fun l => !fence l))))) := by
  have marker : ∀ l ∈ (rest.dropWhile (fun l => !fence l)).take 1, fence l = true := by
    intro l member
    cases shape : rest.dropWhile (fun l => !fence l) with
    | nil =>
      rw [shape] at member
      cases member
    | cons closing later =>
      rw [shape] at member
      rw [List.mem_singleton.mp member]
      have stops := List.head?_dropWhile_not (fun l => !fence l) rest
      rw [shape] at stops
      simpa using stops
  refine ⟨rest.takeWhile (fun l => !fence l),?_,?_,rfl⟩
  · have gone : ∀ l, fence l = true → textless (some (.pre (join '\n' (rest.takeWhile (fun l => !fence l))))) l = true := by
      intro l fenced
      simp [textless,fenced]
    have closed : ((rest.dropWhile (fun l => !fence l)).take 1).filter
        (fun l => !textless (some (.pre (join '\n' (rest.takeWhile (fun l => !fence l))))) l) = [] :=
      List.filter_eq_nil_iff.mpr (fun l member => by simp [gone l (marker l member)])
    rw [List.cons_append,List.filter_cons_of_neg (by simp [gone line fenced]),List.filter_append,closed,List.append_nil]
    exact List.filter_sublist
  · exact (List.sublist_append_left _ _).cons line

theorem takenOff {p : Line → Bool} {line : Line} (first : p line = true) (rest : List Line) :
    line :: rest = (line :: rest.takeWhile p) ++ (line :: rest).dropWhile p ∧
    (line :: rest).takeWhile p = line :: rest.takeWhile p := by
  rw [List.dropWhile_cons_of_pos first,List.takeWhile_cons_of_pos first,List.cons_append,List.takeWhile_append_dropWhile]
  exact ⟨rfl,rfl⟩

/- Every turn takes at least its own line, and what it takes is whole unless it is a table
over a line that is not a separator to its end. -/
theorem turnWhole (line : Line) (rest : List Line) : ∃ taken, line :: rest = line :: taken ++ (turn line rest).2 ∧
    (Whole (line :: taken) (turn line rest).1 ↔ Ruled (line :: rest)) := by
  have fits := kindFits line rest
  have other : kind line rest ≠ .table → Ruled (line :: rest) := by
    intro apart
    cases rest with
    | nil => exact True.intro
    | cons next later => exact fun own => absurd own apart
  cases shape : kind line rest with
  | blank =>
    rw [shape] at fits
    refine ⟨[],by simp [turn,shape],iff_of_true ?_ (other (by rw [shape]; simp))⟩
    rw [turn,shape]
    intro l member
    rw [List.mem_singleton.mp member]
    exact congrArg not (trimBlank fits)
  | fence =>
    rw [shape] at fits
    refine ⟨rest.takeWhile (fun l => !fence l) ++ (rest.dropWhile (fun l => !fence l)).take 1,?_,
      iff_of_true ?_ (other (by rw [shape]; simp))⟩
    · rw [turn,shape,List.cons_append,List.append_assoc,List.take_append_drop,List.takeWhile_append_dropWhile]
    · rw [turn,shape]
      exact fenceWhole fits rest
  | heading level text =>
    rw [shape] at fits
    refine ⟨[],by simp [turn,shape],iff_of_true ?_ (other (by rw [shape]; simp))⟩
    rw [turn,shape]
    refine holdsAll ⟨line,rfl,?_⟩
    rw [writtenInline]
    exact headingText fits _
  | quote =>
    rw [shape] at fits
    obtain ⟨cut,body⟩ := takenOff (p := quoted) fits rest
    refine ⟨rest.takeWhile quoted,by rw [turn,shape]; exact cut,iff_of_true ?_ (other (by rw [shape]; simp))⟩
    rw [turn,shape]
    simp only [body]
    refine holdsAll ⟨_,textsOf (fun l member => unquotedText ?_ _),writtenInline _⟩
    rw [← body] at member
    exact List.mem_takeWhile_imp member
  | table =>
    rw [shape] at fits
    obtain ⟨next,later,rfl⟩ := fits
    have step : turn line (next :: later) = (some (.table (row line) ((later.takeWhile (·.contains '|')).map row)),
        later.dropWhile (·.contains '|')) := by
      rw [turn,shape]
      rfl
    rw [step]
    refine ⟨next :: later.takeWhile (·.contains '|'),?_,?_⟩
    · rw [List.cons_append,List.cons_append,List.takeWhile_append_dropWhile]
    · exact (tableWhole line next _).trans ⟨fun ruled _ => ruled,fun ruled => ruled shape⟩
  | list =>
    rw [shape] at fits
    obtain ⟨cut,body⟩ := takenOff (p := item) fits rest
    refine ⟨rest.takeWhile item,by rw [turn,shape]; exact cut,iff_of_true ?_ (other (by rw [shape]; simp))⟩
    rw [turn,shape]
    simp only [body]
    refine holdsAll (listHolds (fun l member => ?_))
    rw [← body] at member
    exact List.mem_takeWhile_imp member
  | paragraph =>
    refine ⟨rest.takeWhile continues,?_,iff_of_true ?_ (other (by rw [shape]; simp))⟩
    · rw [turn,shape,List.cons_append,List.takeWhile_append_dropWhile]
    · rw [turn,shape]
      exact holdsAll (writtenInline _)

/-! All turns. -/

theorem turnsCons (n : Nat) (line : Line) (rest : List Line) : turns (n + 1) (line :: rest) =
    (turns n (turn line rest).2).map (fun later => ⟨line :: rest,(turn line rest).1,(turn line rest).2⟩ :: later) := rfl

-- Each line more is a turn less to wait for, so as many turns as lines are enough.
theorem turnsEnd (ls : List Line) : ∃ taken, (∀ n, ls.length ≤ n → turns n ls = some taken) ∧
    taken.flatMap Turn.consumed = ls ∧ ∀ t ∈ taken, Whole t.consumed t.block ↔ Ruled t.ahead := by
  generalize size : ls.length = k
  induction k using Nat.strong_induction_on generalizing ls with
  | _ k ih =>
    cases ls with
    | nil =>
      refine ⟨[],fun n _ => ?_,rfl,fun t member => by cases member⟩
      cases n <;> rfl
    | cons line rest =>
      obtain ⟨own,cut,whole⟩ := turnWhole line rest
      have long := congrArg List.length cut
      rw [List.length_append,List.length_cons,List.length_cons] at long
      rw [List.length_cons] at size
      obtain ⟨later,done,order,each⟩ := ih (turn line rest).2.length (by omega) (turn line rest).2 rfl
      have consumed : (⟨line :: rest,(turn line rest).1,(turn line rest).2⟩ : Turn).consumed = line :: own := by
        have gone : (line :: rest).length - (turn line rest).2.length = (line :: own).length := by
          rw [List.length_cons,List.length_cons]
          omega
        rw [Turn.consumed,gone,cut,List.take_left]
      refine ⟨⟨line :: rest,(turn line rest).1,(turn line rest).2⟩ :: later,fun n enough => ?_,?_,fun t member => ?_⟩
      · cases n with
        | zero => omega
        | succ n =>
          rw [turnsCons,done n (by omega)]
          rfl
      · rw [List.flatMap_cons,consumed,order]
        exact cut.symm
      · obtain rfl | there := List.mem_cons.mp member
        · rw [consumed]
          exact whole
        · exact each t there

/- The loop ends and takes each line once, in order. Every line that has text is in the block
of the turn that took it exactly if no table skips a line with text in place of a
separator. -/
theorem rendersEvery (source : String) : ∃ taken,
    (∀ n, (lines source).length ≤ n → turns n (lines source) = some taken) ∧
    taken.flatMap Turn.consumed = lines source ∧
    ((∀ t ∈ taken, Whole t.consumed t.block) ↔ ∀ t ∈ taken, Ruled t.ahead) := by
  obtain ⟨taken,done,order,each⟩ := turnsEnd (lines source)
  exact ⟨taken,done,order,forall₂_congr each⟩

def Example.ragged : String := "a | b\n|---|---| lost text"

theorem raggedLines : lines Example.ragged = ["a | b".toList,"|---|---| lost text".toList] := by decide

theorem raggedLost : ¬ ∀ taken, turns 2 (lines Example.ragged) = some taken → ∀ t ∈ taken, Whole t.consumed t.block := by
  intro all
  obtain ⟨taken,done,_,each⟩ := turnsEnd (lines Example.ragged)
  have ended := done 2 (by rw [raggedLines]; decide)
  have whole := all taken ended
  rw [raggedLines,turnsCons] at ended
  obtain ⟨later,_,rfl⟩ := Option.map_eq_some_iff.mp ended
  have ruled := (each _ (List.mem_cons_self ..)).mp (whole _ (List.mem_cons_self ..))
  exact absurd (ruled (by decide)) (by decide)

end Moadian.Markdown
