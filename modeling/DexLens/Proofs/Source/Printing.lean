import DexLens.Proofs.Source.Conditions
import DexLens.Proofs.Text.Cutting

/-! # What is printed tells what was meant

Texts are printed between quotes, arrays between braces, and types by their names.
-/

namespace DexLens.Source

open Code Instr List Term Writing

/-! ## Texts -/

/-- Is the character printed as a number? -/
def isCoded (c : Char) : Bool := c.toNat < 32 || 0x80 ≤ c.toNat && c.toNat ≤ 0xff

/-- What stands between the quotes. -/
def literalBody (s : List Char) : List Char := s.flatMap fun c => (literalChar c).toList

lemma toList_literal (s : String) : (literal s).toList = '"' :: (literalBody s.toList ++ ['"']) := by
 have all : (String.join (s.toList.map literalChar)).toList = literalBody s.toList := by
  rw [String.toList_join, flatMap_map]
  rfl
 change ("\"" ++ String.join (s.toList.map literalChar) ++ "\"").toList = _
 simp [all]

lemma literal_inj_iff : literal t = literal s ↔ literalBody t.toList = literalBody s.toList := by
 rw [<- String.toList_inj, toList_literal, toList_literal, cons_inj_right, append_left_inj]

lemma literalChar_plain (hc : isCoded c = false) : (literalChar c).toList = [c] := by
 rw [literalChar, if_neg (by simpa [isCoded] using hc), Char.toString, String.toList_singleton]

/-- Four characters, none of them a quote, which are printed as they are. -/
abbrev IsCode (text : List Char) : Prop := literalBody text = text ∧ text.length = 4 ∧ '"' ∉ text

lemma literalChar_coded (hc : isCoded c = true) : c ≠ '"' ∧ IsCode (literalChar c).toList := by
 have all : ∀ n < 256, let c := Char.ofNat n
   isCoded c = true -> c ≠ '"' ∧ IsCode (literalChar c).toList := by decide +kernel
 have byte : c.toNat < 256 := by
  simp only [isCoded, Bool.or_eq_true, Bool.and_eq_true, decide_eq_true_eq] at hc
  omega
 have own := all c.toNat byte
 rw [Char.ofNat_toNat] at own
 exact own hc

lemma literalBody_plain (plain : ∀ c ∈ s, isCoded c = false) : literalBody s = s := by
 induction s with
 | nil => rfl
 | cons c cs ih =>
  obtain ⟨hc, plain⟩ := forall_mem_cons.mp plain
  rw [literalBody, flatMap_cons, literalChar_plain hc]
  exact congrArg (c :: ·) (ih plain)

lemma literalBody_swap (hc : isCoded c = true) (a b : List Char) :
  literalBody (a ++ (literalChar c).toList ++ b) = literalBody (a ++ [c] ++ b) := by
 have own := (literalChar_coded hc).2.1
 unfold literalBody at own ⊢
 simp only [flatMap_append, own, flatMap_singleton]

lemma count_literalBody (s : List Char) : (literalBody s).count '"' = s.count '"' := by
 induction s with
 | nil => rfl
 | cons c cs ih =>
  rw [literalBody, flatMap_cons, count_append, <- literalBody, ih]
  cases hc : isCoded c with
  | false => rw [literalChar_plain hc, <- count_append, singleton_append]
  | true =>
   obtain ⟨ho, -, -, hq⟩ := literalChar_coded hc
   rw [count_eq_zero_of_not_mem hq, count_cons_of_ne ho, Nat.zero_add]

/-- A text is told by what is printed exactly if no character of it is printed as a number and no part of it reads like
    such a number. Quotes in it are printed as they are. -/
theorem literal_tells_iff (s : String) : ((∀ t, literal t = literal s -> t = s) ↔
   ∀ c, isCoded c = true -> c ∉ s.toList ∧ ¬ (literalChar c).toList <:+: s.toList) ∧
  (literal s).toList.count '"' = s.toList.count '"' + 2 := by
 refine ⟨⟨fun tells c hc => ?_, fun plain t same => ?_⟩, by simp [toList_literal, count_literalBody]⟩
 -- A number is longer than its character, so the two texts that are printed alike differ.
 · have other : ∀ a b x y, x.length ≠ y.length -> literalBody (a ++ x ++ b) = literalBody (a ++ y ++ b) ->
     a ++ y ++ b ≠ s.toList := by
    intro a b x y hn same here
    have := tells (.ofList (a ++ x ++ b)) (literal_inj_iff.mpr (by rw [String.toList_ofList, same, here]))
    rw [<- String.toList_inj, String.toList_ofList, <- here] at this
    exact hn (by simpa using congrArg List.length this)
   have four := (literalChar_coded hc).2.2.1
   constructor
   · intro hm
     obtain ⟨a, b, here⟩ := append_of_mem hm
     exact other a b _ [c] (by simp [four]) (literalBody_swap hc a b) (by simp [here])
   · rintro ⟨a, b, here⟩
     exact other a b [c] _ (by simp [four]) (literalBody_swap hc a b).symm here
 · have own : literalBody s.toList = s.toList := literalBody_plain fun c hm => by
    by_contra hc
    exact (plain c (by simpa using hc)).1 hm
   rw [literal_inj_iff, own] at same
   by_cases ht : ∀ c ∈ t.toList, isCoded c = false
   · rwa [literalBody_plain ht, String.toList_inj] at same
   · simp only [not_forall, Bool.not_eq_false] at ht
     obtain ⟨c, hm, hc⟩ := ht
     refine absurd ?_ (plain c hc).2
     rw [<- same]
     exact infix_flatMap_of_mem hm fun c => (literalChar c).toList

/-! ## Arrays -/

/-- The numbers between the braces. -/
def byteList (bs : Bytes) : String := ", ".intercalate (bs.map (toString ·.toNat))

lemma byteList_concat_ne (bs : Bytes) (b : UInt8) : byteList bs ≠ byteList (bs ++ [b]) := by
 intro same
 by_cases hn : bs = []
 · subst hn
   simp [byteList] at same
 · have := congrArg String.length same
   rw [byteList, byteList, map_append, String.intercalate_append_of_ne_nil (by simpa) (by simp), String.length_append,
    String.length_append, show ", ".length = 2 from rfl] at this
   omega

/-- Of an array that stands complete in the code, what is printed between the braces is its elements exactly if there
    are none or the code goes on after them. -/
theorem elements_listed_iff {o p w x a b c d : UInt8} {rest : Bytes} (mark : u16 o p = 0x300)
  (declared : u32 a b c d * u16 w x = total) (whole : total ≤ rest.length) (v : Name) (xs : List (Name × Term))
  {page after : Page} (named : (do put (<- space); term (operand xs v) : Writing Unit).run page = .ok (⟨⟩, after)) :
  let fill := .act (.fill v (payload? (u16 o p) (o :: p :: w :: x :: a :: b :: c :: d :: rest))) xs
  ∃ text, (action fill).run page = .ok (fill, { after with pieces := "\x7d;\n" :: text :: " = \x7b" :: after.pieces }) ∧
   (text = byteList (rest.take total) ↔ total = 0 ∨ total < rest.length) := by
 have hp : payload? (u16 o p) (o :: p :: w :: x :: a :: b :: c :: d :: rest) =
   some (.arrayData (u16 w x) (u32 a b c d) (rest.take (total + 1))) := by
  rw [<- declared, mark]
  rfl
 rw [hp]
 refine ⟨byteList (rest.take (total + 1)).dropLast, ?_, ?_⟩
 · let payload := some (arrayData (u16 w x) (u32 a b c d) (rest.take (total + 1)))
   have parts : action (.act (.fill v payload) xs) =
     (do put (<- space); term (operand xs v) : Writing Unit) >>= fun _ => do
      put " = \x7b"
      phrase ((bytes payload).map .of)
      put "\x7d;\n"
      return .act (.fill v payload) xs := by simp [action, bind_assoc]
   rw [parts, run_ok named]
   rfl
 · rcases whole.lt_or_eq with more | rfl
   · rw [dropLast_eq_take, length_take, take_take]
     simp [more]
   · rw [take_of_length_le (Nat.le_succ _), take_length]
     rcases eq_nil_or_concat rest with rfl | ⟨bs, b, rfl⟩
     · simp
     · simpa using byteList_concat_ne bs b

/-- Of two bytes at the very end of the code, not both are printed. -/
theorem last_element_lost : let a := .reg 0
  let fill := .act (.fill a (payload? 0x300 [0, 3, 1, 0, 2, 0, 0, 0, 65, 66])) [(a, .leaf (.named a))]
  ∃ text pieces, (action fill).run (.blank default false) = .ok (fill, { Page.blank default false with
   pieces := "\x7d;\n" :: text :: pieces }) ∧ text ≠ byteList [65, 66] := by
 intro a fill
 obtain ⟨text, run, told⟩ := @elements_listed_iff 2 0 3 1 0 2 0 0 0 [65, 66] rfl rfl le_rfl a [(a, .leaf (.named a))]
  (.blank default false) _ rfl
 exact ⟨text, _, run, fun same => absurd (told.mp same) (by decide)⟩

end DexLens.Source

/-! ## Types -/

namespace DexLens.Descriptor

open List Text

/-- A type, by how it is described. -/
inductive Shape where
 | primitive (letter : Char) (name : String) (listed : primitive? (.ofList [letter]) = some name)
 | ofClass (path : List Char)
 | array (elements : Shape)

def dotted (path : List Char) : String := .ofList (path.map fun c => if c = '/' then '.' else c)

/-- The package of the basic classes, and whether a character occurs in its name. -/
def basic : List Char := "java/lang".toList

def isBasic (c : Char) : Bool := "java/lang/".toList.contains c

/-- The name of a class right in that package. -/
def basicName? (path : List Char) : Option (List Char) :=
 (dropLeading? (basic ++ ['/']) path).filter (!·.contains '/')

namespace Shape

def text : Shape -> List Char
 | primitive c _ _ => [c]
 | ofClass path => 'L' :: (path ++ [';'])
 | array t => '[' :: t.text

/-- The name that tells the type. -/
def name : Shape -> String
 | primitive _ n _ => n
 | ofClass path => dotted ((basicName? path).getD path)
 | array t => t.name ++ "[]"

/-- The name of a class right in the package does not start with a letter of the name of the package. -/
def Plain : Shape -> Prop
 | primitive _ _ _ => True
 | ofClass path => basic <+: path -> ∃ n, basicName? path = some n ∧ ∀ c ∈ n.head?, isBasic c = false
 | array t => t.Plain

end Shape

lemma splitAt_intercalate (cs : List Char) : Text.splitAt '/' cs ≠ [] ∧
  ['.'].intercalate (Text.splitAt '/' cs) = cs.map fun c => if c = '/' then '.' else c := by
 induction cs with
 | nil => exact ⟨by simp [Text.splitAt], rfl⟩
 | cons c cs ih =>
  obtain ⟨hn, ih⟩ := ih
  rw [map_cons, <- ih, Text.splitAt]
  obtain ⟨piece, more, hs⟩ := exists_cons_of_ne_nil hn
  rw [hs]
  by_cases hc : c = '/'
  · simp [hc, intercalate_cons_cons]
  · simp [hc, intercalate_cons_cons_left]

lemma toList_dotted : (dotted path).toList = path.map fun c => if c = '/' then '.' else c := String.toList_ofList

lemma replaceChar_eq (cs : List Char) : replaceChar (.ofList cs) '/' "." = dotted cs := by
 rw [<- String.toList_inj, replaceChar, String.toList_intercalate, split, map_map, String.toList_ofList, toList_dotted,
  <- (splitAt_intercalate cs).2]
 simp [Function.comp_def]

lemma primitive?_eq_none (hc : c = 'L' ∨ c = '[') (t : List Char) : primitive? (.ofList (c :: t)) = none := by
 rw [primitive?, lookup_eq_none_iff]
 intro p hm
 rw [bne_iff_ne]
 intro same
 have : p.1.toList.head? = some c := by rw [<- same, String.toList_ofList]; rfl
 revert p
 rcases hc with rfl | rfl <;> simp

lemma dropLeading?_isSome (p s : List Char) : (dropLeading? p s).isSome = true ↔ p <+: s := by
 rw [Option.isSome_iff_exists]
 constructor
 · rintro ⟨t, ht⟩
   exact ⟨t, (of_dropLeading? ht).symm⟩
 · rintro ⟨t, rfl⟩
   exact ⟨t, dropLeading?_append p t⟩

lemma sourceName_class : sourceName none ('L' :: (path ++ [';'])) =
  .ok (dotted (if basic <+: path then path.dropWhile isBasic else path)) := by
 have hi : inside 1 1 (.ofList ('L' :: (path ++ [';']))) = .ofList path := by simp [inside]
 have hs : startsWith (.ofList ('L' :: (path ++ [';']))) "Ljava/lang" = true ↔ basic <+: path := by
  have ends : basic ≠ path ++ [';'] := fun same => absurd (same ▸ mem_concat_self) (by decide : ';' ∉ basic)
  rw [startsWith, dropLeading?_isSome, @String.toList_ofList ('L' :: (path ++ _))]
  exact (prefix_cons_inj 'L').trans (prefix_concat_iff.trans (or_iff_right ends))
 rw [sourceName]
 simp only [primitive?_eq_none (.inl rfl), hi, hs]
 split
 · rw [stripFront, @String.toList_ofList path, replaceChar_eq]
   rfl
 · rw [replaceChar_eq]

lemma sourceName_array (t : List Char) : sourceName none ('[' :: t) = (sourceName none t).map (· ++ "[]") := by
 rw [sourceName]
 simp only [primitive?_eq_none (.inr rfl)]
 rfl

lemma dotted_shorter (h : p.length < q.length) : dotted p ≠ dotted q := by
 intro same
 have := congrArg length (String.toList_inj.mpr same)
 simp [toList_dotted] at this
 omega

namespace Shape

lemma class_named_iff : sourceName none (ofClass path).text = .ok (ofClass path).name ↔ (ofClass path).Plain := by
 rw [text, sourceName_class]
 simp only [name, Plain, Except.ok.injEq]
 by_cases hb : basic <+: path
 · simp only [hb, if_true, true_imp_iff]
   obtain ⟨rest, rfl⟩ := hb
   have drop : (basic ++ rest).dropWhile isBasic = rest.dropWhile isBasic := rfl
   rw [drop]
   cases hn : basicName? (basic ++ rest) with
   | none =>
    have shorter : (rest.dropWhile isBasic).length < (basic ++ rest).length := by
     have := (dropWhile_suffix isBasic (l := rest)).length_le
     rw [length_append, show basic.length = 9 from rfl]
     omega
    simp [dotted_shorter shorter]
   | some n =>
    obtain ⟨hd, -⟩ := Option.filter_eq_some_iff.mp hn
    have same : rest = '/' :: n := by simpa using of_dropLeading? hd
    subst same
    change dotted (n.dropWhile isBasic) = dotted n ↔ _
    simp only [Option.some.injEq, exists_eq_left']
    -- What is stripped goes on into the name as long as its characters occur in that of the package.
    cases n with
    | nil => simp
    | cons c cs =>
     cases hc : isBasic c with
     | false => simp [hc]
     | true =>
      have shorter : (cs.dropWhile isBasic).length < (c :: cs).length :=
       Nat.lt_succ_of_le (dropWhile_suffix isBasic).length_le
      simpa [hc] using dotted_shorter shorter
 · have hn : dropLeading? (basic ++ ['/']) path = none := by
    by_contra hd
    exact hb ((prefix_append ..).trans ((dropLeading?_isSome ..).mp (Option.isSome_iff_ne_none.mpr hd)))
   simp [hb, basicName?, hn]

lemma named_iff (s : Shape) : sourceName none s.text = .ok s.name ↔ s.Plain := by
 induction s with
 | primitive c n listed =>
  unfold text sourceName
  simp only [listed]
  exact iff_of_true rfl trivial
 | ofClass path => exact class_named_iff
 | array t ih =>
  rw [text, sourceName_array, Plain, <- ih]
  cases sourceName none t.text with
  | error => simp [Except.map]
  | ok n => simp [Except.map, name]

end Shape

lemma dotted_inj (hp : '.' ∉ p) (hq : '.' ∉ q) (same : dotted p = dotted q) : p = q := by
 have back : ∀ p : List Char, '.' ∉ p -> (dotted p).toList.map (fun c => if c = '.' then '/' else c) = p := by
  intro p hp
  rw [toList_dotted, map_map]
  refine (map_congr_left fun c hm => ?_).trans (map_id p)
  have : c ≠ '.' := fun own => hp (own ▸ hm)
  grind
 rw [<- back p hp, same, back q hq]

/-- A type gets the name that tells it exactly if it is plain. Classes outside the package of the basic classes get
    different names. -/
theorem type_named_iff (s : Shape) : (sourceName none s.text = .ok s.name ↔ s.Plain) ∧
  ∀ p q, ¬ basic <+: p -> ¬ basic <+: q -> '.' ∉ p -> '.' ∉ q ->
   sourceName none (Shape.ofClass p).text = sourceName none (Shape.ofClass q).text -> p = q := by
 refine ⟨s.named_iff, fun p q ho hs hp hq same => dotted_inj hp hq ?_⟩
 rw [Shape.text, Shape.text, sourceName_class, sourceName_class, if_neg ho, if_neg hs] at same
 exact Except.ok.inj same

end DexLens.Descriptor
