import DexLens.Monitor.Fragment
import DexLens.Proofs.Lookup
import DexLens.Proofs.Text.Cutting

/-! # Fragments of messages

Of all that waits, a line touches only what waits under its own id. So a message that was cut into pieces comes back
as its stripped pieces, and that is the message itself only if no cut has a blank beside it.
-/

namespace DexLens.Monitor

open List LogLine String Text

/-- A fragment as it is written: what the log puts in front of it, its number and its text. -/
structure Fragment where
 lead : String
 number : Int
 piece : String
 unmarked : Text.contains lead marker = false

namespace Fragment

variable (id : Int) (final : Bool) (f : Fragment)

def letter : Char := if final then 'f' else 'p'

/-- The line of a fragment of the message with some id. -/
def line : String := f.lead ++ marker ++ "id" ++ dec id ++ ":" ++ (letter final).toString ++ dec f.number ++ ":" ++ f.piece

lemma toList_line : (f.line id final).toList = f.lead.toList ++ (marker.toList ++ 'i' :: ('d' :: ((dec id).toList ++
   ':' :: letter final :: (dec f.number).toList) ++ ':' :: f.piece.toList)) := by
 simp [line]

lemma unbordered_marker : Unbordered marker.toList := by decide

lemma numbered_dec (i : Int) (rest : List Char) : numbered ((dec i).toList ++ ':' :: rest) = .ok (i, stripList rest) := by
 unfold numbered
 rw [cutList?_singleton (colon_notMem_dec i)]
 simp only [ofList_toList, int?_dec]
 rfl

lemma parse_line : LogLine.parse (f.line id final) =
  .ok (if final then .final id f.number (strip f.piece) else .part id f.number (strip f.piece)) := by
 have ha : cutList? marker.toList f.lead.toList = none := by simpa [Text.contains] using f.unmarked
 have firm : isBlank (letter final) = false := by cases final <;> rfl
 have hf : isBlank ':' = false := rfl
 unfold parse
 rw [toList_line, unbordered_marker.cutList?_append ha]
 simp only
 rw [stripList_framed rfl hf]
 split
 · rename_i he
   cases he
 · rename_i hb
   simp at hb
 · simp only [cons_append, List.append_assoc, drop_succ_cons, drop_zero]
   rw [numbered_dec, stripList_framed firm hf, rdropWhile_idempotent]
   have last : numbered ((dec f.number).toList ++ ':' :: f.piece.toList.rdropWhile isBlank) =
     .ok (f.number, stripList f.piece.toList) := by
    rw [numbered_dec, stripList_rdropWhile]
   cases final with
   | false =>
    change (numbered _ >>= fun read => pure (part id read.1 (ofList read.2))) = _
    rw [last]
    rfl
   | true =>
    change (numbered _ >>= fun read => pure (final id read.1 (ofList read.2))) = _
    rw [last]
    rfl

end Fragment

/-! ## What waits -/

namespace Pending

variable (id : Int) (pending : Pending)

lemma parts_eq : pending.parts id = (pending.lookup id).getD [] := by
 unfold parts
 induction pending with
 | nil => rfl
 | cons entry pending ih =>
  obtain ⟨key, texts⟩ := entry
  by_cases same : key = id
  · simp [same]
  · rw [find?_cons_of_neg (by simpa using same), ih, Lookup.cons_of_ne (symm same)]

lemma lookup_add (id : Int) (text : String) (other : Int) : (pending.add id text).lookup other =
   if other = id then some (pending.parts id ++ [text]) else pending.lookup other := by
 rw [parts_eq]
 unfold add
 split
 · rename_i hp
   obtain ⟨texts, hk⟩ := Option.ne_none_iff_exists'.mp (mt Lookup.eq_none_iff.mp (not_not.mpr hp))
   refine (Lookup.map_of_key pending id (· ++ [text]) other).trans ?_
   split
   · rename_i own
     rw [own, hk]
     rfl
   · rfl
 · rename_i ha
   have hf := Lookup.eq_none_iff.mpr ha
   rw [Lookup.concat hf, hf]
   rfl

lemma lookup_remove (id other : Int) : (pending.remove id).lookup other = if other = id then none else pending.lookup other :=
 Lookup.filter_of_key pending id other

end Pending

/-! ## What arrived -/

/-- A fragment as it is read. -/
structure Arrival where
 final : Bool
 number : Int
 text : String
 deriving DecidableEq

variable (id : Int) (init : List String) (last : String)

/-- The fragment of an id that a line brings. -/
def arrival? (line : String) : Option Arrival :=
 match LogLine.parse line with
 | .ok (.part i number text) => if i = id then some ⟨false, number, text⟩ else none
 | .ok (.final i number text) => if i = id then some ⟨true, number, text⟩ else none
 | _ => none

def arrivals (lines : List String) : List Arrival := lines.filterMap (arrival? id)

section

variable (id : Int) (final : Bool) (f : Fragment)

/-- Those that arrived since the last final one. -/
def waiting (arrived : List Arrival) : List Arrival := arrived.rtakeWhile fun a => !a.final

lemma arrivals_append (lines more : List String) :
  arrivals id (lines ++ more) = arrivals id lines ++ arrivals id more := filterMap_append ..

lemma arrivals_concat (lines : List String) (line : String) :
  arrivals id (lines ++ [line]) = arrivals id lines ++ (arrival? id line).toList := by
 cases ha : arrival? id line <;> simp [arrivals, ha]

lemma waiting_concat (arrived : List Arrival) (a : Arrival) :
  waiting (arrived ++ [a]) = if a.final then [] else waiting arrived ++ [a] := by
 unfold waiting
 rw [rtakeWhile_concat]
 cases a.final <;> rfl

lemma waiting_of_open (h : ∀ a ∈ arrived, a.final = false) : waiting arrived = arrived :=
 rtakeWhile_eq_self_iff.mpr fun a hm => by rw [h a hm]; rfl

def Fragment.arrival : Arrival := ⟨final, f.number, strip f.piece⟩

lemma arrival?_line (other : Int) : arrival? other (f.line id final) = if id = other then some (f.arrival final) else none := by
 unfold arrival?
 rw [Fragment.parse_line]
 cases final <;> rfl

lemma arrivals_lines (fragments : List Fragment) :
  arrivals id (fragments.map (Fragment.line id false)) = fragments.map (Fragment.arrival false) := by
 unfold arrivals
 rw [filterMap_map, <- filterMap_eq_map]
 exact filterMap_congr fun f _ => by simp [arrival?_line]

end

namespace Pending

variable {pending : Pending} {id : Int} {line : String}

def after (pending : Pending) (lines : List String) : Pending := lines.foldl (fun table line => (table.receive line).2) pending

/-- What each of some lines gives. -/
def answers (pending : Pending) : List String -> List (Res (Option String))
 | [] => []
 | line :: lines => (pending.receive line).1 :: answers (pending.receive line).2 lines

lemma after_concat (pending : Pending) (lines : List String) (line : String) :
  pending.after (lines ++ [line]) = ((pending.after lines).receive line).2 := by simp [after]

lemma answers_append (pending : Pending) (lines more : List String) :
  pending.answers (lines ++ more) = pending.answers lines ++ (pending.after lines).answers more := by
 induction lines generalizing pending with
 | nil => rfl
 | cons line lines ih => exact congrArg (_ :: ·) (ih _)

lemma receive_arrival (h : arrival? id line = some a) : (pending.receive line).1 =
   .ok (if a.final then some (join (pending.parts id ++ [a.text])) else none) := by
 unfold arrival? at h
 unfold receive
 split at h
 · rename_i read
   split at h <;> cases h
   rw [read]
   rfl
 · rename_i i number text read
   split at h <;> cases h
   rename_i own
   rw [read, <- own]
   rfl
 · cases h

lemma receive_line (pending : Pending) (id : Int) (final : Bool) (f : Fragment) : (pending.receive (f.line id final)).1 =
   .ok (if final then some (join (pending.parts id ++ [strip f.piece])) else none) := by
 have ha : arrival? id (f.line id final) = some (f.arrival final) := by rw [arrival?_line, if_pos rfl]
 exact receive_arrival ha

/-- What a line does to the table, seen from one id: the line's own fragment is all that counts. -/
lemma lookup_receive (pending : Pending) (line : String) (id : Int) : (pending.receive line).2.lookup id =
  match arrival? id line with
  | some a => if a.final then none else some (pending.parts id ++ [a.text])
  | none => pending.lookup id := by
 unfold receive arrival?
 cases parse line with
 | error cause => rfl
 | ok said =>
  cases said with
  | other | whole => rfl
  | part i number text =>
   simp only [accept, lookup_add]
   by_cases own : i = id <;> grind
  | final i number text =>
   simp only [accept, lookup_remove]
   by_cases own : i = id <;> grind

lemma receive_of_error (h : (pending.receive line).1 = .error cause) : (pending.receive line).2 = pending := by
 unfold receive at h ⊢
 split at h
 · cases h
 · rfl

lemma lookup_after_of_no_arrivals {lines} (h : arrivals id lines = []) (pending : Pending) :
  (pending.after lines).lookup id = pending.lookup id := by
 induction lines using reverseRecOn with
 | nil => rfl
 | append_singleton lines line ih =>
  rw [arrivals_concat, append_eq_nil_iff, Option.toList_eq_nil_iff] at h
  rw [after_concat, lookup_receive, h.2]
  exact ih h.1

/-- What waits under an id after some lines are its fragments since the last final one. -/
lemma waits_after {start : Pending} (hf : start.lookup id = none) (lines : List String) :
  (start.after lines).parts id = (waiting (arrivals id lines)).map Arrival.text ∧
   ((start.after lines).lookup id = none ↔ waiting (arrivals id lines) = []) := by
 induction lines using reverseRecOn with
 | nil => exact ⟨by rw [parts_eq, after, foldl_nil, hf]; rfl, iff_of_true hf rfl⟩
 | append_singleton lines line ih =>
  rw [parts_eq, after_concat, lookup_receive, arrivals_concat]
  cases ha : arrival? id line with
  | none => simpa [parts_eq] using ih
  | some a =>
   simp only [Option.toList_some, waiting_concat, ih.1]
   cases a.final <;> simp

end Pending

/-! ## Cut and put together -/

/-- The fragments of one message, of which the last one is final. -/
structure Stream where
 id : Int
 init : List Fragment
 last : Fragment

namespace Stream

variable (s : Stream)

def opening : List String := s.init.map (Fragment.line s.id false)

def closing : String := s.last.line s.id true

def lines : List String := s.opening ++ [s.closing]

/-- What the message is put together to. -/
def text : String := join ((s.init ++ [s.last]).map (strip ·.piece))

end Stream

namespace Pending

variable {s : Stream} {start : Pending}

lemma answers_opening (pending : Pending) (s : Stream) : pending.answers s.opening = replicate s.init.length (.ok none) := by
 obtain ⟨id, init, last⟩ := s
 unfold Stream.opening
 induction init generalizing pending with
 | nil => rfl
 | cons f init ih =>
  rw [map_cons, answers, ih, receive_line]
  rfl

lemma receive_closing {pending : Pending} (h : pending.parts s.id = s.init.map (strip ·.piece)) :
  (pending.receive s.closing).1 = .ok (some s.text) := by
 rw [Stream.closing, receive_line, h, Stream.text, map_append]
 rfl

lemma parts_of_arrived {lines : List String} (hf : start.lookup s.id = none)
  (h : arrivals s.id lines = s.init.map (Fragment.arrival false)) :
  (start.after lines).parts s.id = s.init.map (strip ·.piece) := by
 rw [(waits_after hf _).1, h, waiting_of_open (by simp [Fragment.arrival]), List.map_map]
 rfl

lemma answers_lines (hf : start.lookup s.id = none) :
  start.answers s.lines = replicate s.init.length (.ok none) ++ [.ok (some s.text)] := by
 have hc := parts_of_arrived hf (arrivals_lines s.id s.init)
 rw [Stream.lines, answers_append, answers_opening, answers, Stream.opening, receive_closing hc, answers]

end Pending

/-- The stream of a message that was cut into pieces, with its fragments numbered from zero. -/
def Stream.ofPieces : Stream where
 id := id
 init := init.zipIdx.map fun entry => ⟨"", entry.2, entry.1, rfl⟩
 last := ⟨"", init.length, last, rfl⟩

lemma Stream.text_ofPieces : (ofPieces id init last).text = join ((init ++ [last]).map strip) := by
 have hp : (ofPieces id init last).init.map (strip ·.piece) = init.map strip := by
  conv_rhs => rw [<- zipIdx_map_fst 0 init, List.map_map]
  rw [ofPieces, List.map_map]
  rfl
 rw [text, map_append, hp, map_append]
 rfl

namespace Pending

lemma answers_ofPieces {start : Pending} {id : Int} (hf : start.lookup id = none) (init : List String)
  (last : String) : start.answers (Stream.ofPieces id init last).lines = replicate init.length (.ok none) ++
   [.ok (some (join ((init ++ [last]).map strip)))] := by
 have hc : (Stream.ofPieces id init last).init.length = init.length := by simp [Stream.ofPieces]
 rw [answers_lines hf, Stream.text_ofPieces, hc]

/-- A message cut into pieces and sent under a fresh id comes back, with the last line, as its stripped pieces. It is
    the message that was sent if and only if no piece begins or ends with a blank. -/
theorem rejoined_iff (start : Pending) (id : Int) (init : List String) (last : String) (fresh : start.lookup id = none) :
  start.answers (Stream.ofPieces id init last).lines = replicate init.length (.ok none) ++
    [.ok (some (join ((init ++ [last]).map strip)))] ∧
   ((start.answers (Stream.ofPieces id init last).lines).getLast? = some (.ok (some (join (init ++ [last])))) ↔
    ∀ piece ∈ init ++ [last], strip piece = piece) := by
 refine ⟨answers_ofPieces fresh init last, ?_⟩
 rw [answers_ofPieces fresh, <- join_strip_eq_iff]
 simp

theorem rejoined_iff_object : let start : Pending:= [(3, ["\x7b"])]
  let stream := Stream.ofPieces 7 ["\x7b\"a\""] ": 1\x7d"
  start.lookup 7 = none ∧ (start.answers stream.lines).getLast? = some (.ok (some "\x7b\"a\": 1\x7d")) := by
 intro start stream
 have hf : start.lookup 7 = none := by decide
 have firm : ∀ piece ∈ ["\x7b\"a\""] ++ [": 1\x7d"], strip piece = piece := by decide
 exact ⟨hf, (rejoined_iff start 7 ["\x7b\"a\""] ": 1\x7d" hf).2.mpr firm⟩

/-- A cut before a blank loses the blank, though the message has none at its ends. -/
theorem not_always_rejoined :
  ¬ ∀ (start : Pending) (id : Int) (size : Nat) (init : List String) (last : String), start.lookup id = none ->
   (∀ piece ∈ init, piece.length = size) -> 0 < last.length -> last.length ≤ size ->
   (join (init ++ [last])).toList.head? = some '\x7b' -> '\n' ∉ (join (init ++ [last])).toList ->
   strip (join (init ++ [last])) = join (init ++ [last]) ->
   (start.answers (Stream.ofPieces id init last).lines).getLast? = some (.ok (some (join (init ++ [last])))) := by
 intro ha
 have hw := ha [] 7 5 ["\x7b\"a\":"] " 1\x7d" rfl (by decide) (by decide) (by decide) (by decide) (by decide)
  (by decide)
 rw [answers_ofPieces rfl] at hw
 revert hw
 decide

end Pending

end DexLens.Monitor
