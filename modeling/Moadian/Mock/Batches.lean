import Moadian.Mock.Submissions
import Moadian.Mock.Requests

/-! What any sequence of batches leaves behind: all of a batch is stored or nothing, and no
uid is stored twice. -/
namespace Moadian.Mock
open Codec Crypto Wire

def Traces (packet : Json) (a : StoredSubmission) : Prop :=
  ∃ p header, packet = .obj p ∧ p.lookup "header" = some (.obj header) ∧
    header.lookup "requestTraceId" = some (.str a.uid) ∧ header.lookup "fiscalId" = some (.str a.fiscalId)

theorem memberObject {d header : Dict} {key : String} (own : member d key = .obj header) : d.lookup key = some (.obj header) := by
  unfold member at own
  cases found : d.lookup key with
  | none =>
    rw [found] at own
    cases own
  | some v =>
    rw [found] at own
    exact congrArg some own

theorem memberText {d : Dict} {key text : String} (own : nonEmpty (member d key) = some text) :
    d.lookup key = some (.str text) := by
  unfold member nonEmpty at own
  cases found : d.lookup key with
  | none =>
    rw [found] at own
    cases own
  | some v =>
    rw [found,Option.getD_some] at own
    split at own
    · split at own
      · cases own
      · cases own
        rfl
    · cases own

section Accept
variable {lib : Library} {py : Python} {state : MockState lib} {auth : AuthContext lib}

theorem acceptCases {minted : Minted} {packet : Json} {uid : String} {a : StoredSubmission}
    (accepted : accept py state auth minted packet = .ok (uid,a)) :
    a.uid = uid ∧ a.referenceNumber = minted.uuid ∧ Traces packet a := by
  unfold accept at accepted
  split at accepted
  · rename_i p
    split at accepted
    · rename_i header payload named filled
      split at accepted
      · rename_i trace fiscalId traced fiscal
        split at accepted
        · cases accepted
        · simp only [bind,Except.bind] at accepted
          split at accepted
          · cases accepted
          · split at accepted
            · cases accepted
            · split at accepted
              · cases accepted
              · cases accepted
              · split at accepted
                · split at accepted
                  · cases accepted
                    exact ⟨rfl,rfl,p,header,rfl,memberObject named,memberText traced,memberText fiscal⟩
                  · cases accepted
                · cases accepted
              · cases accepted
      · cases accepted
    · cases accepted
  · cases accepted

/- The loop adds, to what it has accepted, the submissions of the packets that are left, in
their order, and under uids that are new to it, to the batch and to each other. -/
structure Added (py : Python) (state : MockState lib) (auth : AuthContext lib) (minted : Nat → Minted) (packets : List Json)
    (i : Nat) (before : List String) (more : List StoredSubmission) : Prop where
  each : List.Forall₂ (fun p a => accept py state auth (minted p.2) p.1 = .ok (a.uid,a)) (packets.zipIdx i) more
  new : ∀ a ∈ more, a.uid ∉ before
  distinct : (more.map StoredSubmission.uid).Nodup

theorem acceptedAll {minted : Nat → Minted} {already : List String} {packets : List Json} {i : Nat} {seen : List String}
    {accepted all : List StoredSubmission}
    (done : acceptAll py state auth minted already packets i seen accepted = .ok all) :
    ∃ more, all = accepted ++ more ∧ Added py state auth minted packets i (seen ++ already) more := by
  induction packets generalizing i seen accepted with
  | nil =>
    refine ⟨[],?_,.nil,(fun a member => by cases member),List.nodup_nil⟩
    rw [List.append_nil]
    exact (Except.ok.inj done).symm
  | cons packet rest ih =>
    simp only [acceptAll,bind,Except.bind] at done
    split at done
    · cases done
    · rename_i pair one
      obtain ⟨uid,a⟩ := pair
      obtain ⟨rfl,_⟩ := acceptCases one
      split at done
      · cases done
      · rename_i fresh
        obtain ⟨more,rfl,added⟩ := ih done
        refine ⟨a :: more,by rw [List.append_assoc]; rfl,.cons one added.each,?_,?_⟩
        · intro b member inside
          obtain rfl | later := List.mem_cons.mp member
          · exact fresh (List.mem_append.mp inside)
          · exact added.new b later (List.mem_append.mpr ((List.mem_append.mp inside).imp_left (List.mem_cons_of_mem a.uid)))
        · refine List.nodup_cons.mpr ⟨fun again => ?_,added.distinct⟩
          obtain ⟨b,member,same⟩ := List.mem_map.mp again
          refine added.new b member ?_
          rw [same]
          exact List.mem_append_left _ (List.mem_cons_self ..)

theorem acceptsAll {minted : Nat → Minted} {already : List String} {packets : List Json} {i : Nat} {seen : List String}
    {accepted more : List StoredSubmission} (added : Added py state auth minted packets i (seen ++ already) more) :
    acceptAll py state auth minted already packets i seen accepted = .ok (accepted ++ more) := by
  induction packets generalizing i seen accepted more with
  | nil =>
    cases added.each
    rw [List.append_nil]
    rfl
  | cons packet rest ih =>
    obtain ⟨each,new,distinct⟩ := added
    cases each with
    | @cons _ a _ later one each =>
      obtain ⟨apart,distinct⟩ := List.nodup_cons.mp distinct
      have fresh : a.uid ∉ seen ++ already := new a List.mem_cons_self
      have newer : ∀ b ∈ later, b.uid ∉ a.uid :: seen ++ already := by
        intro b member inside
        obtain same | old := List.mem_cons.mp inside
        · exact apart (same ▸ List.mem_map_of_mem member)
        · exact new b (List.mem_cons_of_mem a member) old
      simp only [acceptAll,one,bind,Except.bind,if_neg (fun old => fresh (List.mem_append.mpr old))]
      rw [ih ⟨each,newer,distinct⟩,List.append_assoc]
      rfl

theorem addedTraces {minted : Nat → Minted} {packets : List Json} {i : Nat} {before : List String} {more : List StoredSubmission}
    (added : Added py state auth minted packets i before more) : List.Forall₂ Traces packets more := by
  have each := added.each
  clear added
  induction packets generalizing i more with
  | nil =>
    cases each
    exact .nil
  | cons packet rest ih =>
    cases each with
    | cons one later => exact .cons (acceptCases one).2.2 (ih later)

-- The reference numbers are the `uuid4`s in the order they are drawn.
theorem addedNumbers {minted : Nat → Minted} {packets : List Json} {i : Nat} {before : List String} {more : List StoredSubmission}
    (added : Added py state auth minted packets i before more) :
    more.map StoredSubmission.referenceNumber = (List.range' i more.length).map (fun k => (minted k).uuid) := by
  have each := added.each
  clear added
  induction packets generalizing i more with
  | nil =>
    cases each
    rfl
  | cons packet rest ih =>
    cases each with
    | cons one later =>
      rw [List.map_cons,List.length_cons,List.range'_succ,List.map_cons,ih later,(acceptCases one).2.1]

end Accept

theorem putNew (held : Dictionary String StoredSubmission) (accepted : List StoredSubmission)
    (new : ∀ a ∈ accepted, a.referenceNumber ∉ held.keys) (distinct : (accepted.map StoredSubmission.referenceNumber).Nodup) :
    (accepted.foldl (fun held a => held.put a.referenceNumber a) held).entries =
      held.entries ++ accepted.map (fun a => (a.referenceNumber,a)) := by
  induction accepted generalizing held with
  | nil => exact (List.append_nil _).symm
  | cons a rest ih =>
    obtain ⟨apart,later⟩ := List.nodup_cons.mp distinct
    have placed : (held.put a.referenceNumber a).entries = held.entries ++ [(a.referenceNumber,a)] :=
      if_neg (new a (List.mem_cons_self ..))
    rw [List.foldl_cons,ih _ ?_ later,placed,List.append_assoc]
    · rfl
    · intro b member inside
      rw [Dictionary.keys,placed,List.map_append] at inside
      obtain old | own := List.mem_append.mp inside
      · exact new b (List.mem_cons_of_mem a member) old
      · have same : b.referenceNumber = a.referenceNumber := List.mem_singleton.mp own
        rw [← same] at apart
        exact apart (List.mem_map_of_mem member)

namespace Registry
variable {lib : Library} {py : Python} {s : Registry lib} {post : Post}

/- A batch is stored whole, in the order of its packets, and answered with what was stored,
or it is refused and nothing of it is stored. -/
structure Whole (py : Python) (s : Registry lib) (post : Post) : Prop where
  refused : ∀ r, (s.invoice py post).1 = .error r → (s.invoice py post).2.submissions = s.submissions
  registered : ∀ answer, (s.invoice py post).1 = .ok answer → ∃ packets accepted,
    loads py post.body = .ok (.arr packets) ∧ List.Forall₂ Traces packets accepted ∧
    (s.invoice py post).2.submissions.entries = s.submissions.entries ++ accepted.map (fun a => (a.referenceNumber,a)) ∧
    answer.result = accepted.map StoredSubmission.result

theorem invoiceCases (py : Python) (s : Registry lib) (post : Post) :
    (∃ r, (s.invoice py post).1 = .error r ∧ (s.invoice py post).2.submissions = s.submissions) ∨
    ∃ auth burned packets accepted, loads py post.body = .ok (.arr packets) ∧
      Added py burned auth post.minted packets 0 s.uids accepted ∧
      s.invoice py post = (.ok ⟨py.millis post.answeredAt,accepted.map StoredSubmission.result⟩,
        ({ s with toMockState := burned } : Registry lib).store accepted) := by
  unfold invoice
  split
  · exact .inl ⟨_,rfl,rfl⟩
  · rename_i auth burned passed
    dsimp only
    split
    · exact .inl ⟨_,rfl,rfl⟩
    · exact .inl ⟨_,rfl,rfl⟩
    · rename_i packets loaded
      split
      · exact .inl ⟨_,rfl,rfl⟩
      · split
        · exact .inl ⟨_,rfl,rfl⟩
        · split
          · exact .inl ⟨_,rfl,rfl⟩
          · rename_i accepted done
            obtain ⟨more,same,added⟩ := acceptedAll done
            rw [List.nil_append] at same
            subst same
            exact .inr ⟨auth,burned,packets,accepted,loaded,added,rfl⟩
    · exact .inl ⟨_,rfl,rfl⟩

/- A batch is accepted when its request gets in and each of its packets, up to a thousand,
under a uid of its own. -/
theorem invoiceAccepts {auth : AuthContext lib} {burned : MockState lib} {packets : List Json} {accepted : List StoredSubmission}
    (passed : authenticate py s.toMockState post.now post.authorization = .ok (auth,burned))
    (loaded : loads py post.body = .ok (.arr packets)) (some_ : packets ≠ []) (few : packets.length ≤ maxPackets)
    (added : Added py burned auth post.minted packets 0 s.uids accepted) :
    s.invoice py post = (.ok ⟨py.millis post.answeredAt,accepted.map StoredSubmission.result⟩,
      ({ s with toMockState := burned } : Registry lib).store accepted) := by
  have all : acceptAll py burned auth post.minted s.uids packets 0 [] [] = .ok accepted := acceptsAll added
  have uids : Registry.uids { s with toMockState := burned } = s.uids := rfl
  unfold invoice
  simp only [passed,loaded,if_neg some_,if_neg (Nat.not_lt.mpr few),uids,all]

theorem stored (fresh : s.Fresh post) {auth : AuthContext lib} {burned : MockState lib} {packets : List Json}
    {accepted : List StoredSubmission} (added : Added py burned auth post.minted packets 0 s.uids accepted) :
    (({ s with toMockState := burned } : Registry lib).store accepted).submissions.entries =
      s.submissions.entries ++ accepted.map (fun a => (a.referenceNumber,a)) := by
  have numbers := addedNumbers added
  refine putNew s.submissions accepted (fun a member => ?_) ?_
  · obtain ⟨k,_,own⟩ := List.mem_map.mp (numbers ▸ List.mem_map_of_mem member)
    rw [← own]
    exact fresh.1 k
  · rw [numbers]
    exact List.Nodup.map (fun i j same => fresh.2 i j same) List.nodup_range'

theorem invoiceWhole (fresh : s.Fresh post) : Whole py s post := by
  obtain ⟨r,answer,kept⟩ | ⟨auth,burned,packets,accepted,loaded,added,step⟩ := invoiceCases py s post
  · refine ⟨fun _ _ => kept,fun _ other => ?_⟩
    rw [answer] at other
    cases other
  · refine ⟨fun r other => ?_,fun answer own => ?_⟩
    · rw [step] at other
      cases other
    · rw [step] at own ⊢
      cases own
      exact ⟨packets,accepted,loaded,addedTraces added,stored fresh added,rfl⟩

theorem invoiceDistinct (fresh : s.Fresh post) (distinct : s.uids.Nodup) : (s.invoice py post).2.uids.Nodup := by
  obtain ⟨r,_,kept⟩ | ⟨auth,burned,packets,accepted,_,added,step⟩ := invoiceCases py s post
  · rw [uids,kept]
    exact distinct
  · have uids_ : (accepted.map (fun a => (a.referenceNumber,a))).map (·.2.uid) = accepted.map StoredSubmission.uid := by
      rw [List.map_map]
      rfl
    rw [step,uids,stored fresh added,List.map_append,uids_]
    refine List.nodup_append.mpr ⟨distinct,added.distinct,?_⟩
    rintro uid old _ new rfl
    obtain ⟨a,member,rfl⟩ := List.mem_map.mp new
    exact added.new a member old

theorem invoiceKeys (fresh : s.Fresh post) {number : String} (held : number ∈ (s.invoice py post).2.submissions.keys) :
    number ∈ s.submissions.keys ∨ ∃ i, number = (post.minted i).uuid := by
  obtain ⟨r,_,kept⟩ | ⟨auth,burned,packets,accepted,_,added,step⟩ := invoiceCases py s post
  · rw [kept] at held
    exact .inl held
  · rw [step,Dictionary.keys,stored fresh added,List.map_append] at held
    refine (List.mem_append.mp held).imp_right (fun new => ?_)
    obtain ⟨_,pair,rfl⟩ := List.mem_map.mp new
    obtain ⟨a,member,rfl⟩ := List.mem_map.mp pair
    obtain ⟨k,_,own⟩ := List.mem_map.mp (addedNumbers added ▸ List.mem_map_of_mem member)
    exact ⟨k,own.symm⟩

theorem runDistinct {posts : List Post} (fresh : s.Throughout py posts) (distinct : s.uids.Nodup) : (s.run py posts).uids.Nodup := by
  induction posts generalizing s with
  | nil => exact distinct
  | cons post rest ih => exact ih fresh.2 (invoiceDistinct fresh.1 distinct)

theorem throughoutSplit {before after : List Post} (fresh : s.Throughout py (before ++ after)) :
    s.Throughout py before ∧ (s.run py before).Throughout py after := by
  induction before generalizing s with
  | nil => exact ⟨True.intro,fresh⟩
  | cons post rest ih =>
    obtain ⟨own,later⟩ := ih fresh.2
    exact ⟨⟨fresh.1,own⟩,later⟩

end Registry

theorem batchesWhole {lib : Library} (py : Python) {s : Registry lib} (distinct : s.uids.Nodup) {posts : List Post}
    (fresh : s.Throughout py posts) :
    (∀ before post after, posts = before ++ post :: after → (s.run py before).Whole py post) ∧
    ∀ before after, posts = before ++ after → (s.run py before).uids.Nodup := by
  refine ⟨fun before post after shape => ?_,fun before after shape => ?_⟩
  · subst shape
    exact Registry.invoiceWhole (Registry.throughoutSplit fresh).2.1
  · subst shape
    exact Registry.runDistinct (Registry.throughoutSplit fresh).1 distinct

/-! Two packets, and under the next nonce a batch that repeats the uid of one of them. -/
namespace Example

def traceId (last : Char) : String := String.ofList ("12345678-1234-5678-1234-56781234567".toList ++ [last])

def packet (trace : String) : List Json :=
  match Wire.buildPacket py.floats taxpayer noon encryptor drawn invoice "A11111" (some trace) "" with
  | .ok packet => [.obj [("payload",.str (String.ofList packet.payload)),
      ("header",.obj [("requestTraceId",.str packet.header.requestTraceId),("fiscalId",.str packet.header.fiscalId)])]]
  | .error _ => []

def bearer (nonce : String) : List Char := ((Wire.bearerToken py.floats authenticator utcNoon nonce).toOption).getD []

def post (letter : Char) (nonce : String) (traces : List String) : Post where
  now := 1742544000000000
  authorization := bearer nonce
  body := encodeUtf8 (dumps py.floats ⟨true,1,1,none⟩ (.arr (traces.flatMap packet)))
  minted := fun i => ⟨1742544000000000,1742544000000000,String.ofList (letter :: List.replicate i '0')⟩
  answeredAt := 1742544000000000

def opening : Post := post 'a' first [traceId '1',traceId '2']

def repeating : Post := post 'b' second [traceId '3',traceId '1']

def registry : Registry package := { toMockState := issuedTwo }

theorem postDrawn {a b : Char} {m n : String} {xs ys : List String} {i j : Nat}
    (same : ((post a m xs).minted i).uuid = ((post b n ys).minted j).uuid) : a = b ∧ i = j := by
  have texts := String.ofList_injective same
  refine ⟨(List.cons.inj texts).1,?_⟩
  simpa using congrArg List.length texts

theorem postsFresh : registry.Throughout py [opening,repeating] := by
  have own : registry.Fresh opening := ⟨(fun i held => by cases held),fun i j same => (postDrawn same).2⟩
  refine ⟨own,⟨fun i held => ?_,fun i j same => (postDrawn same).2⟩,True.intro⟩
  obtain old | ⟨j,same⟩ := Registry.invoiceKeys own held
  · cases old
  · exact absurd (postDrawn same).1 (by decide)

end Example

theorem batchesWholeTwice :
    (∀ before post after, [Example.opening,Example.repeating] = before ++ post :: after →
      (Example.registry.run Example.py before).Whole Example.py post) ∧
    ∀ before after, [Example.opening,Example.repeating] = before ++ after → (Example.registry.run Example.py before).uids.Nodup :=
  batchesWhole Example.py (show Example.registry.uids.Nodup from List.nodup_nil) Example.postsFresh

end Moadian.Mock
