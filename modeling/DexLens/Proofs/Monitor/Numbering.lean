import DexLens.Proofs.Monitor.Fragments

/-! # The numbers of fragments

Nothing is made of the numbers of fragments: a final fragment completes whatever waits under its id.
-/

namespace DexLens.Monitor

open List Pending Arrival

/-- Something holds of every element of a list and those before it. -/
def AtEach {α : Type} (P : List α -> α -> Prop) (xs : List α) : Prop := ∀ before x later, xs = before ++ x :: later -> P before x

lemma atEach_nil (P : List α -> α -> Prop) : AtEach P [] := by
 intro before x later h
 simp at h

lemma atEach_concat : AtEach P (xs ++ [x]) ↔ AtEach P xs ∧ P xs x := by
 constructor
 · intro h
   exact ⟨fun before y later cut => h before y (later ++ [x]) (by simp [cut]), h xs x [] rfl⟩
 · rintro ⟨he, here⟩ before y later cut
   obtain rfl | ⟨between, z, rfl⟩ := eq_nil_or_concat later
   · obtain ⟨rfl, last⟩ := append_inj' cut rfl
     obtain rfl : x = y := singleton_inj.mp last
     exact here
   · rw [concat_eq_append, <- cons_append, <- append_assoc] at cut
     exact he before y between (append_inj' cut rfl).1

/-- Fragments that carry the numbers zero, one and so on. -/
def InOrder (fragments : List Arrival) : Prop := fragments.map number = (range fragments.length).map Int.ofNat

instance (fragments : List Arrival) : Decidable (InOrder fragments) := inferInstanceAs (Decidable (_ = _))

lemma inOrder_concat {a : Arrival} :
  InOrder (fragments ++ [a]) ↔ InOrder fragments ∧ a.number = fragments.length := by
 unfold InOrder
 rw [length_append, length_singleton, range_succ, map_append, map_append]
 constructor
 · intro h
   obtain ⟨init, last⟩ := append_inj' h rfl
   exact ⟨init, singleton_inj.mp last⟩
 · rintro ⟨init, last⟩
   rw [init]
   exact congrArg (_ ++ [·]) last

/-- Each fragment carries the number of those that wait if and only if all completed messages are in order and so is
    what waits in the end. -/
lemma counted_iff (arrived : List Arrival) :
  AtEach (fun before a => a.final = true -> InOrder (waiting before ++ [a])) arrived ∧ InOrder (waiting arrived) ↔
   AtEach (fun before a => a.number = (waiting before).length) arrived := by
 induction arrived using reverseRecOn with
 | nil => exact iff_of_true ⟨atEach_nil _, rfl⟩ (atEach_nil _)
 | append_singleton arrived a ih =>
  rw [atEach_concat, atEach_concat, <- ih, waiting_concat]
  cases a.final with
  | false => simp [inOrder_concat, and_assoc]
  | true =>
   have he : InOrder [] := rfl
   simp [inOrder_concat, and_assoc, he]

lemma atEach_arrivals (id : Int) (lines : List String) :
  AtEach (fun before line => ∀ a ∈ arrival? id line, P (arrivals id before) a) lines ↔ AtEach P (arrivals id lines) := by
 induction lines using reverseRecOn with
 | nil => exact iff_of_true (atEach_nil _) (atEach_nil _)
 | append_singleton lines line ih =>
  rw [atEach_concat, ih, arrivals_concat]
  cases arrival? id line with
  | none => simp
  | some a => simp [atEach_concat]

/-- A final fragment delivers all fragments of its id since the last delivery, any other nothing. What is delivered is
    complete, and what waits in the end is in order, if and only if each fragment carries the number of those that
    wait when it arrives. That is not asked. -/
theorem delivered_unchecked (lines : List String) (id : Int) :
  AtEach (fun before line => ∀ a ∈ arrival? id line, ((after [] before).receive line).1 = .ok
   (if a.final then some (String.join ((waiting (arrivals id before) ++ [a]).map text)) else none)) lines ∧
  (AtEach (fun before line => ∀ a ∈ arrival? id line, a.final = true -> InOrder (waiting (arrivals id before) ++ [a])) lines ∧
   InOrder (waiting (arrivals id lines)) ↔
   AtEach (fun before line => ∀ a ∈ arrival? id line, a.number = ((after [] before).parts id).length) lines) := by
 have hc (before : List String) :
   (after [] before).parts id = (waiting (arrivals id before)).map text :=
  (waits_after rfl before).1
 constructor
 · rintro before line later - a ha
   rw [receive_arrival ha, hc, map_append]
   rfl
 · simp only [hc, length_map]
   rw [atEach_arrivals (P := fun before a => a.final = true -> InOrder (waiting before ++ [a])),
    atEach_arrivals (P := fun before a => a.number = (waiting before).length)]
   exact counted_iff _

/-- Of a message whose first fragment was lost, the second one is delivered. -/
theorem not_only_complete :
  ¬ ∀ (lines : List String) (id : Int), AtEach (fun before line => ∀ a ∈ arrival? id line, a.final = true ->
   (∃ text, ((after [] before).receive line).1 = .ok (some text)) ->
   InOrder (waiting (arrivals id before) ++ [a])) lines := by
 intro ha
 have lone := ha ["!SECCON!:id1:f1:b"] 1 [] _ [] rfl ⟨true, 1, "b"⟩ (by decide) rfl ⟨"b", by decide⟩
 revert lone
 decide

end DexLens.Monitor
