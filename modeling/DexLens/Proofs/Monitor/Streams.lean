import DexLens.Proofs.Monitor.Fragments

/-! # Messages that share the log

Lines of several messages may stand in the log in any order that keeps each message's own.
-/

namespace DexLens.Monitor

open List Pending Stream Fragment LogLine

variable {α β : Type} {id : Int} {s : Stream}

/-- The third list has the elements of the first two, each in its own order. -/
inductive Interleave : List α -> List α -> List α -> Prop where
 | nil : Interleave [] [] []
 | left {x : α} {xs ys zs : List α} : Interleave xs ys zs -> Interleave (x :: xs) ys (x :: zs)
 | right {y : α} {xs ys zs : List α} : Interleave xs ys zs -> Interleave xs (y :: ys) (y :: zs)

inductive InterleaveAll : List (List α) -> List α -> Prop where
 | nil : InterleaveAll [] []
 | cons {xs ys zs : List α} {rest : List (List α)} :
   Interleave xs ys zs -> InterleaveAll rest ys -> InterleaveAll (xs :: rest) zs

namespace Interleave

variable {xs ys zs : List α}

lemma filterMap (f : α -> Option β) (h : Interleave xs ys zs) :
  Interleave (xs.filterMap f) (ys.filterMap f) (zs.filterMap f) := by
 induction h with
 | nil => exact .nil
 | @left x xs ys zs _ ih =>
  cases kept : f x with
  | none => simpa [filterMap_cons, kept] using ih
  | some => simpa [filterMap_cons, kept] using ih.left
 | @right y xs ys zs _ ih =>
  cases kept : f y with
  | none => simpa [filterMap_cons, kept] using ih
  | some => simpa [filterMap_cons, kept] using ih.right

lemma eq_left (h : Interleave xs [] zs) : zs = xs := by
 generalize he : ([] : List α) = ys at h
 induction h with
 | nil => rfl
 | left _ ih => rw [ih he]
 | right => cases he

lemma eq_right (h : Interleave [] ys zs) : zs = ys := by
 generalize he : ([] : List α) = xs at h
 induction h with
 | nil => rfl
 | left => cases he
 | right _ ih => rw [ih he]

end Interleave

/-- Lines that are no fragments: a whole message, a line without a message and one that cannot be read. -/
def Aside (line : String) : Prop :=
 parse line = .ok .other ∨ (∃ text, parse line = .ok (.whole text)) ∨ ∃ cause, parse line = .error cause

lemma Aside.arrival?_eq_none {line} (h : Aside line) (id : Int) : arrival? id line = none := by
 unfold arrival?
 obtain h | ⟨_, h⟩ | ⟨_, h⟩ := h <;> rw [h]

lemma Aside.receive {line} (h : Aside line) (pending : Pending) : (pending.receive line).2 = pending := by
 unfold Pending.receive
 obtain h | ⟨_, h⟩ | ⟨_, h⟩ := h <;> rw [h] <;> rfl

namespace Stream

def arrived (s : Stream) : List Arrival := s.init.map (arrival false) ++ [s.last.arrival true]

lemma arrivals_lines (s : Stream) : arrivals s.id s.lines = s.arrived := by
 rw [lines, arrivals_concat, opening, Monitor.arrivals_lines, closing, arrival?_line, if_pos rfl]
 rfl

lemma arrival?_eq_none {line : String} (h : line ∈ s.lines) (ho : id ≠ s.id) : arrival? id line = none := by
 simp only [lines, opening, closing, mem_append, mem_map, mem_singleton] at h
 obtain ⟨f, -, rfl⟩ | rfl := h <;> rw [arrival?_line, if_neg (symm ho)]

lemma arrivals_lines_of_ne (ho : id ≠ s.id) : arrivals id s.lines = [] :=
 filterMap_eq_nil_iff.mpr fun _ hm => arrival?_eq_none hm ho

end Stream

section

variable {streams : List Stream} {asides lines : List String} {rest : List (List String)}

lemma arrivals_of_notMem (h : id ∉ streams.map Stream.id) (hm : InterleaveAll (streams.map Stream.lines) lines) :
  arrivals id lines = [] := by
 induction streams generalizing lines with
 | nil =>
  cases hm
  rfl
 | cons s streams ih =>
  rw [map_cons, mem_cons, not_or] at h
  cases hm with
  | cons both rest =>
   have hs := both.filterMap (arrival? id)
   rw [show filterMap _ s.lines = [] from arrivals_lines_of_ne h.1] at hs
   exact hs.eq_right.trans (ih h.2 rest)

lemma arrivals_of_mem (hm : s ∈ streams) (hd : (streams.map Stream.id).Nodup)
  (hr : InterleaveAll (streams.map Stream.lines) lines) : arrivals s.id lines = s.arrived := by
 induction streams generalizing lines with
 | nil => cases hm
 | cons t streams ih =>
  rw [map_cons, nodup_cons] at hd
  cases hr with
  | cons both rest =>
   have hs := both.filterMap (arrival? s.id)
   obtain rfl | hl := mem_cons.mp hm
   · rw [show filterMap _ _ = [] from arrivals_of_notMem hd.1 rest] at hs
     exact hs.eq_left.trans s.arrivals_lines
   · have ho : s.id ≠ t.id := fun same => hd.1 (same ▸ mem_map_of_mem hl)
     rw [show filterMap _ t.lines = [] from arrivals_lines_of_ne ho] at hs
     exact hs.eq_right.trans (ih hl hd.2 rest)

lemma arrivals_asides (hl : ∀ line ∈ asides, Aside line) (hm : InterleaveAll (asides :: rest) lines)
  (id : Int) : ∃ others, InterleaveAll rest others ∧ arrivals id lines = arrivals id others := by
 cases hm with
 | @cons _ others _ _ both hm =>
  have hs := both.filterMap (arrival? id)
  have none : asides.filterMap (arrival? id) = [] :=
   filterMap_eq_nil_iff.mpr fun line hb => (hl line hb).arrival?_eq_none id
  rw [none] at hs
  exact ⟨others, hm, hs.eq_right⟩

end

lemma Stream.eq_of_arrived {a : Arrival} (last : a.final = true)
  (h : before ++ a :: later = s.arrived) : before = s.init.map (arrival false) := by
 obtain ⟨between, cut, rest⟩ | ⟨beyond, cut, rest⟩ := append_eq_append_iff.mp h
 · cases between with
   | nil => rw [cut, append_nil]
   | cons b between =>
    obtain rfl : a = b := (cons.inj rest).1
    have hm : a ∈ s.init.map (arrival false) := by simp [cut]
    obtain ⟨f, -, rfl⟩ := mem_map.mp hm
    cases last
 · have hs := congrArg length rest
   simp only [length_append, length_cons, length_nil] at hs
   obtain rfl : beyond = [] := length_eq_zero_iff.mp (by omega)
   rw [cut, append_nil]

lemma Pending.completes {start : Pending} {before later : List String} (hf : start.lookup s.id = none)
  (all : arrivals s.id (before ++ s.closing :: later) = s.arrived) :
  ((start.after before).receive s.closing).1 = .ok (some s.text) ∧
   ((start.after before).receive s.closing).2.lookup s.id = none := by
 have hl : arrival? s.id s.closing = some (s.last.arrival true) := by
  rw [closing, arrival?_line, if_pos rfl]
 rw [arrivals_append, show arrivals s.id (s.closing :: later) = _ from filterMap_cons_some hl] at all
 have hc := parts_of_arrived hf (eq_of_arrived rfl all)
 refine ⟨receive_closing hc, ?_⟩
 rw [lookup_receive, hl]
 rfl

/-- Streams of distinct ids, none of which waits for anything, share the log with lines that are no fragments. A line
    of a stream touches only what waits under its own id, and gives nothing before the final fragment and the stream's
    whole message then. Other lines touch nothing. In the end the table is what it was. -/
theorem streams_apart (start : Pending) (streams : List Stream) (asides lines : List String)
  (uniq : (streams.map Stream.id).Nodup) (fresh : ∀ s ∈ streams, start.lookup s.id = none)
  (silent : ∀ line ∈ asides, Aside line) (merged : InterleaveAll (asides :: streams.map Stream.lines) lines) :
  (∀ before line later, lines = before ++ line :: later -> let table := start.after before
   let next := (table.receive line).2
   (∀ s ∈ streams, line ∈ s.lines -> ∀ id ≠ s.id, next.lookup id = table.lookup id) ∧
   (∀ s ∈ streams, line ∈ s.opening -> (table.receive line).1 = .ok none) ∧
   (∀ s ∈ streams, line = s.closing -> (table.receive line).1 = .ok (some s.text) ∧ next.lookup s.id = none) ∧
   (line ∈ asides -> next = table) ∧ ∀ cause, (table.receive line).1 = .error cause -> next = table) ∧
  ∀ id, (start.after lines).lookup id = start.lookup id := by
 have own (s : Stream) (hm : s ∈ streams) : arrivals s.id lines = s.arrived := by
  obtain ⟨others, rest, same⟩ := arrivals_asides silent merged s.id
  rw [same, arrivals_of_mem hm uniq rest]
 refine ⟨?_, fun id => ?_⟩
 · rintro before line later rfl table next
   refine ⟨?_, ?_, ?_, ?_, ?_⟩
   · intro s _ hw id ht
     rw [lookup_receive, arrival?_eq_none hw ht]
   · rintro s - ho
     obtain ⟨f, -, rfl⟩ := mem_map.mp ho
     exact receive_line table s.id false f
   · rintro s hm rfl
     exact completes (fresh s hm) (own s hm)
   · exact fun hm => (silent line hm).receive table
   · exact fun cause => receive_of_error
 · by_cases hk : id ∈ streams.map Stream.id
   · obtain ⟨s, hm, rfl⟩ := mem_map.mp hk
     have done : waiting (arrivals s.id lines) = [] := by
      rw [own s hm, arrived, waiting_concat]
      rfl
     rw [fresh s hm, (waits_after (fresh s hm) lines).2, done]
   · -- No line has a fragment of this id.
     obtain ⟨others, rest, same⟩ := arrivals_asides silent merged id
     exact lookup_after_of_no_arrivals (same.trans (arrivals_of_notMem hk rest)) start

theorem streams_apart_pair : let first : Stream:= .ofPieces 1 ["\x7b\"a\": "] "1\x7d"
  let second : Stream := .ofPieces 2 ["\x7b\"b\": "] "2\x7d"
  let before := first.opening ++ second.opening ++ ["!SECCON!:", second.closing]
  (∀ s ∈ [first, second], lookup s.id ([(3, ["\x7b"])] : Pending) = none) ∧ Aside "!SECCON!:" ∧
   InterleaveAll [["!SECCON!:"], first.lines, second.lines] (before ++ [first.closing]) ∧
   ((Pending.after [(3, ["\x7b"])] before).receive first.closing).1 = .ok (some "\x7b\"a\":1\x7d") := by
 intro first second before
 have hf : ∀ s ∈ [first, second], lookup s.id ([(3, ["\x7b"])] : Pending) = none := by decide
 have ha : Aside "!SECCON!:" := .inr (.inr ⟨.beyond, by decide⟩)
 have hm : InterleaveAll [["!SECCON!:"], first.lines, second.lines] (before ++ [first.closing]) :=
  .cons (.right (.right (.left (.right (.right .nil)))))
   (.cons (.left (.right (.right (.left .nil)))) (.cons (.left (.left .nil)) .nil))
 have step := (streams_apart _ [first, second] _ _ (by decide) hf (by simpa using ha) hm).1 before _ [] rfl
 have hg := (step.2.2.1 first mem_cons_self rfl).1
 exact ⟨hf, ha, hm, hg.trans (by decide)⟩

end DexLens.Monitor
