import Moadian.Json

/-! Checks of a JSON value that report every fault at once, and records checked field
by field. -/
namespace Moadian

structure Fault where
  loc : List String
  kind : String
  deriving DecidableEq, Repr

inductive Checked (α : Type) where
  | ok (value : α)
  | error (faults : List Fault)
  deriving Repr

namespace Checked
variable {α β : Type}

def faults : Checked α → List Fault
  | .ok _ => []
  | .error fs => fs

-- What one part is at fault with does not hide the faults of the next.
def both (f : Checked (α → β)) (a : Checked α) : Checked β :=
  match f with
  | .error fs => .error (fs ++ faults a)
  | .ok g => match a with
    | .error fs => .error fs
    | .ok x => .ok (g x)

instance : Applicative Checked where
  pure a := .ok a
  seq f a := both f (a ())

def under (name : String) : Checked α → Checked α
  | .ok a => .ok a
  | .error fs => .error (fs.map (fun f => { f with loc := name :: f.loc }))

def fault (kind : String) : Checked α := .error [⟨[],kind⟩]

theorem seqOk {f : Checked (α → β)} {a : Checked α} {g : α → β} {x : α} (first : f = .ok g) (second : a = .ok x) :
    (f <*> a) = .ok (g x) := by
  rw [first,second]
  rfl

theorem mapOk {a : Checked α} {x : α} (g : α → β) (second : a = .ok x) : (g <$> a) = .ok (g x) := seqOk rfl second

theorem seqCases {f : Checked (α → β)} {a : Checked α} {y : β} (whole : (f <*> a) = .ok y) :
    ∃ g x, f = .ok g ∧ a = .ok x ∧ y = g x := by
  cases f with
  | error fs => cases whole
  | ok g =>
    cases a with
    | error fs => cases whole
    | ok x =>
      cases whole
      exact ⟨g,x,rfl,rfl,rfl⟩

theorem mapCases {a : Checked α} {g : α → β} {y : β} (whole : (g <$> a) = .ok y) : ∃ x, a = .ok x ∧ y = g x := by
  obtain ⟨_,x,same,found,rfl⟩ := seqCases whole
  cases same
  exact ⟨x,found,rfl⟩

theorem underOk {name : String} {a : Checked α} {x : α} : under name a = .ok x ↔ a = .ok x := by
  cases a with
  | ok y => exact Iff.rfl
  | error fs =>
    constructor
    · intro never
      cases never
    · intro never
      cases never

/-! What every accepted value has. -/
def Holds (P : α → Prop) (c : Checked α) : Prop := ∀ a, c = .ok a → P a

theorem holdsSeq {P : β → Prop} {Q : α → Prop} {f : Checked (α → β)} {a : Checked α} (second : Holds Q a)
    (first : Holds (fun g => ∀ x, Q x → P (g x)) f) : Holds P (f <*> a) := by
  intro y whole
  obtain ⟨g,x,own,found,rfl⟩ := seqCases whole
  exact first g own x (second x found)

theorem holdsAside {P : β → Prop} {f : Checked (α → β)} {a : Checked α} (first : Holds (fun g => ∀ x, P (g x)) f) :
    Holds P (f <*> a) := by
  intro y whole
  obtain ⟨g,x,own,found,rfl⟩ := seqCases whole
  exact first g own x

theorem holdsMap {P : β → Prop} {Q : α → Prop} {g : α → β} {a : Checked α} (second : Holds Q a)
    (keeps : ∀ x, Q x → P (g x)) : Holds P (g <$> a) := by
  intro y whole
  obtain ⟨x,found,rfl⟩ := mapCases whole
  exact keeps x (second x found)

/-! Fields, lists and objects. -/

def field (d : Dict) (name : String) (check : Json → Checked α) : Checked α :=
  match d.lookup name with
  | some v => under name (check v)
  | none => under name (fault "missing")

def fieldOr (d : Dict) (name : String) (default_ : α) (check : Json → Checked α) : Checked α :=
  match d.lookup name with
  | some v => under name (check v)
  | none => .ok default_

def nullable (check : Json → Checked α) : Json → Checked (Option α)
  | .null => .ok none
  | v => some <$> check v

def optional (d : Dict) (name : String) (check : Json → Checked α) : Checked (Option α) :=
  fieldOr d name none (nullable check)

def each (check : Json → Checked α) : Nat → List Json → Checked (List α)
  | _, [] => .ok []
  | i, v :: rest => List.cons <$> under (toString i) (check v) <*> each check (i + 1) rest

def listOf (check : Json → Checked α) : Json → Checked (List α)
  | .arr items => each check 0 items
  | _ => fault "list_type"

def dict : Json → Checked Dict
  | .obj members => .ok members
  | _ => fault "dict_type"

def extras (names : List String) (d : Dict) : Checked Unit :=
  match d.filter (fun m => m.1 ∉ names) with
  | [] => .ok ()
  | unknown => .error (unknown.map (fun m => ⟨[m.1],"extra_forbidden"⟩))

theorem fieldOk {d : Dict} {name : String} {check : Json → Checked α} {v : Json} {a : α} (own : d.lookup name = some v)
    (read : check v = .ok a) : field d name check = .ok a := by
  rw [field,own]
  exact underOk.mpr read

theorem fieldOrOk {d : Dict} {name : String} {default_ : α} {check : Json → Checked α} {v : Json} {a : α}
    (own : d.lookup name = some v) (read : check v = .ok a) : fieldOr d name default_ check = .ok a := by
  rw [fieldOr,own]
  exact underOk.mpr read

theorem fieldOrDefault {d : Dict} {name : String} {default_ : α} {check : Json → Checked α} (unset : d.lookup name = none) :
    fieldOr d name default_ check = .ok default_ := by
  rw [fieldOr,unset]

def record (names : Dict → List String) (build : Dict → Checked α) : Json → Checked α
  | .obj d => (fun a _ => a) <$> build d <*> extras (names d) d
  | _ => fault "model_type"

theorem recordOk {names : Dict → List String} {build : Dict → Checked α} {d : Dict} {a : α} (built : build d = .ok a)
    (known : ∀ m ∈ d, m.1 ∈ names d) : record names build (.obj d) = .ok a := by
  have none_ : extras (names d) d = .ok () := by
    unfold extras
    rw [List.filter_eq_nil_iff.mpr (fun m member => by simpa using known m member)]
  exact seqOk (mapOk _ built) none_

theorem recordHolds {names : Dict → List String} {build : Dict → Checked α} {P : α → Prop}
    (all : ∀ d, Holds P (build d)) (v : Json) : Holds P (record names build v) := by
  cases v with
  | obj d => exact holdsAside (holdsMap (all d) (fun a held _ => held))
  | null | bool b | int n | float f | str t | arr items => exact fun a never => by cases never

theorem recordBuilt {names : Dict → List String} {build : Dict → Checked α} {d : Dict} {a : α}
    (whole : record names build (.obj d) = .ok a) : build d = .ok a := by
  obtain ⟨g,_,first,_,rfl⟩ := seqCases whole
  obtain ⟨b,built,rfl⟩ := mapCases first
  exact built

theorem eachOk {check : Json → Checked α} {show_ : β → Json} {back : β → α} {xs : List β}
    (all : ∀ x ∈ xs, check (show_ x) = .ok (back x)) (i : Nat) : each check i (xs.map show_) = .ok (xs.map back) := by
  induction xs generalizing i with
  | nil => rfl
  | cons x rest ih =>
    have first := all x List.mem_cons_self
    have later := ih (fun y member => all y (List.mem_cons_of_mem _ member)) (i + 1)
    exact seqOk (mapOk _ (underOk.mpr first)) later

theorem eachCases {check : Json → Checked α} {i : Nat} {items : List Json} {ys : List α} (whole : each check i items = .ok ys) :
    List.Forall₂ (fun v y => check v = .ok y) items ys := by
  induction items generalizing i ys with
  | nil =>
    cases whole
    exact .nil
  | cons v rest ih =>
    obtain ⟨g,tail,first,later,rfl⟩ := seqCases whole
    obtain ⟨y,here,rfl⟩ := mapCases first
    exact .cons (underOk.mp here) (ih later)

theorem eachAccepted {check : Json → Checked α} {i : Nat} {items : List Json} {ys : List α}
    (whole : each check i items = .ok ys) : ∀ v ∈ items, ∃ y, check v = .ok y := by
  have pairs := eachCases whole
  clear whole
  induction pairs with
  | nil => simp
  | cons here _ ih => exact List.forall_mem_cons.mpr ⟨⟨_,here⟩,ih⟩

theorem listHolds {check : Json → Checked α} {P : α → Prop} (all : ∀ v, Holds P (check v)) (v : Json) :
    Holds (fun ys => ∀ y ∈ ys, P y) (listOf check v) := by
  intro ys whole
  cases v with
  | arr items =>
    have pairs := eachCases whole
    clear whole
    induction pairs with
    | nil => simp
    | cons here _ ih => exact List.forall_mem_cons.mpr ⟨all _ _ here,ih⟩
  | null | bool b | int n | float f | str t | obj d => cases whole

end Checked
end Moadian
