import HelpWiring.Proofs.Page.Grammar
import HelpWiring.Report.Json
import Mathlib.Data.List.Basic

/-!
# What a Report Says

Two reports that differ are never written alike, so nothing of a report is lost
when it is written as JSON.

A value is written in front of other text, so the question is asked with that
text left open: two values with something behind each can only be the same text
if the values are the same, and what is behind them is. Then the question can be
taken apart along the value. A text ends at the first quote that is not escaped,
and no escape is the start of another. A number has no mark at its end and needs
something behind it that is no digit. That is always so, since a comma or a line
feed follows. Lists and records are both members between two marks, each behind
a comma and a new line, and the first character of a value tells which kind of
value it is.

## Main definitions

* `unescape?`: The first character of what is between quotes.
* `EndsNumber`: No digit comes first.
* `Legible`: A value that can be told from others, with anything behind it.
* `enclosed`: Members between two marks.

## Theorems

* `unescape?_escape`: A character comes back out of its escape.
* `flatMap_escape_inj`, `ofNat_append_inj`: Texts and numbers in front of other text.
* `legible_enclosed`: Members can be told apart if each of them can.
* `legible_write`: Every value can be told from all others.
* `toJson_injective`: Reports are different values.
* `json_inj`: Reports that are written alike are the same.
-/

namespace HelpWiring

namespace Json

/-- What a hexadecimal digit stands for. -/
def digitValue (c : Char) : Nat := if c.isDigit then c.toNat - 48 else c.toNat - 87

/-- The character that is behind a backslash, and what is left behind it. -/
def escaped? : Text → Option (Char × Text)
  | [] => none
  | 'u' :: '0' :: '0' :: high :: low :: rest =>
    some (Char.ofNat (16 * digitValue high + digitValue low), rest)
  | 'b' :: rest => some ('\x08', rest)
  | 't' :: rest => some ('\t', rest)
  | 'n' :: rest => some ('\n', rest)
  | 'f' :: rest => some ('\x0c', rest)
  | 'r' :: rest => some ('\r', rest)
  | c :: rest => some (c, rest)

/-- The first character of what is between quotes, and what is left behind it. A quote
    ends that, unless it is escaped. -/
def unescape? : Text → Option (Char × Text)
  | [] => none
  | c :: rest =>
    if c = '"' then none else if c = '\\' then escaped? rest else some (c, rest)

theorem digitValue_code :
    ∀ n < 0x20, 16 * digitValue (Nat.digitChar (n / 16)) + digitValue (Nat.digitChar (n % 16)) = n := by
  decide

theorem unescape?_escape (c : Char) (t : Text) : unescape? (escape c ++ t) = some (c, t) := by
  unfold escape
  split
  · rfl
  · rfl
  · rfl
  · rfl
  · rfl
  · rfl
  · rfl
  · rename_i hquote hslash _ _ _ _ _
    by_cases hcontrol : c.toNat < 0x20
    · have hcode := congrArg Char.ofNat (digitValue_code c.toNat hcontrol)
      rw [Char.ofNat_toNat] at hcode
      rw [if_pos hcontrol]
      exact congrArg (fun d => some (d, t)) hcode
    · rw [if_neg hcontrol, List.singleton_append, unescape?, if_neg hquote, if_neg hslash]

/-- What is between quotes ends at the quote, whatever is behind it. -/
theorem flatMap_escape_inj {t u x y : Text}
    (h : t.flatMap escape ++ '"' :: x = u.flatMap escape ++ '"' :: y) : t = u ∧ x = y := by
  have hstop : ∀ z, unescape? ('"' :: z) = none := fun z => rfl
  induction t generalizing u with
  | nil =>
      cases u with
      | nil => exact ⟨rfl, (List.cons.inj h).2⟩
      | cons d u =>
          -- the one text has a character where the other one ends
          have hfirst := congrArg unescape? h
          rw [List.flatMap_nil, List.nil_append, hstop, List.flatMap_cons, List.append_assoc,
            unescape?_escape] at hfirst
          cases hfirst
  | cons c t ih =>
      have hfirst := congrArg unescape? h
      rw [List.flatMap_cons, List.append_assoc, unescape?_escape] at hfirst
      cases u with
      | nil =>
          rw [List.flatMap_nil, List.nil_append, hstop] at hfirst
          cases hfirst
      | cons d u =>
          rw [List.flatMap_cons, List.append_assoc, unescape?_escape, Option.some.injEq,
            Prod.mk.injEq] at hfirst
          rcases hfirst with ⟨rfl, hrest⟩
          rcases ih hrest with ⟨rfl, hxy⟩
          exact ⟨rfl, hxy⟩

theorem writeText_append_inj {t u x y : Text} (h : writeText t ++ x = writeText u ++ y) :
    t = u ∧ x = y := by
  simp only [writeText, List.cons_append, List.append_assoc, List.nil_append, List.cons.injEq,
    true_and] at h
  exact flatMap_escape_inj h

/-- No digit comes first. -/
def EndsNumber (t : Text) : Prop := ∀ c ∈ t.head?, c.isDigit = false

theorem endsNumber_of_head {t : Text} {c : Char} (h : t.head? = some c)
    (hc : c.isDigit = false) : EndsNumber t := by
  intro d hd
  rw [h, Option.mem_some] at hd
  exact hd ▸ hc

theorem takeWhile_ofNat_append (n : Nat) {x : Text} (hx : EndsNumber x) :
    (Text.ofNat n ++ x).takeWhile Char.isDigit = Text.ofNat n := by
  have hdigits : ∀ c ∈ Text.ofNat n, c.isDigit = true := fun c hc => Text.isDigit_of_mem_ofNat hc
  rw [List.takeWhile_append_of_pos hdigits, (Text.takeWhile_of_head hx).1, List.append_nil]

theorem ofNat_append_inj {n m : Nat} {x y : Text} (hx : EndsNumber x) (hy : EndsNumber y)
    (h : Text.ofNat n ++ x = Text.ofNat m ++ y) : n = m ∧ x = y := by
  have hdigits : Text.ofNat n = Text.ofNat m := by
    rw [← takeWhile_ofNat_append n hx, h, takeWhile_ofNat_append m hy]
  rw [hdigits] at h
  have hvalue := congrArg (fun t => Nat.ofDigitChars 10 t 0) hdigits
  simp only [Text.ofNat, Nat.ofDigitChars_ten_toDigits] at hvalue
  exact ⟨hvalue, List.append_cancel_left h⟩

/-- A value that can be told from all others when something that ends a number is behind
    it, and what is behind it as well. -/
def Legible {α : Type} (write : α → Text) (a : α) : Prop :=
  ∀ b x y, EndsNumber x → EndsNumber y → write a ++ x = write b ++ y → a = b ∧ x = y

section

variable {α : Type}

/-- Members behind the first one, each behind a comma and on a line of its own. -/
def following (w : α → Text) (depth : Nat) (members : List α) : Text :=
  members.flatMap fun a => ',' :: (newLine depth ++ w a)

/-- Members between two marks. Without members the marks are next to each other. -/
def enclosed (first last : Char) (w : α → Text) (depth : Nat) : List α → Text
  | [] => [first, last]
  | a :: more =>
    first :: (newLine (depth + 1) ++ w a ++ following w (depth + 1) more ++ newLine depth ++ [last])

variable {w : α → Text} {depth : Nat}

theorem head?_newLine (depth : Nat) (x : Text) : (newLine depth ++ x).head? = some '\n' := rfl

/-- A member is followed by a comma or by a line feed. -/
theorem endsNumber_following (members : List α) {x : Text} (hx : x.head? = some '\n') :
    EndsNumber (following w depth members ++ x) := by
  cases members with
  | nil => exact endsNumber_of_head hx (by decide)
  | cons a more => exact endsNumber_of_head (c := ',') rfl (by decide)

theorem following_append_inj {as bs : List α} {x y : Text} (has : ∀ a ∈ as, Legible w a)
    (hx : x.head? = some '\n') (hy : y.head? = some '\n')
    (h : following w depth as ++ x = following w depth bs ++ y) : as = bs ∧ x = y := by
  -- where the one list has a comma and the other one ends, there is a line feed
  have hends : ∀ {z z' : Text}, z.head? = some '\n' → z ≠ ',' :: z' := by
    rintro z z' hz rfl
    cases hz
  induction as generalizing bs with
  | nil =>
      cases bs with
      | nil => exact ⟨rfl, h⟩
      | cons b bs => exact absurd h (hends hx)
  | cons a as ih =>
      rw [List.forall_mem_cons] at has
      cases bs with
      | nil => exact absurd h.symm (hends hy)
      | cons b bs =>
          simp only [following, List.flatMap_cons, List.cons_append, List.append_assoc,
            List.cons.injEq, true_and, List.append_cancel_left_eq] at h
          rcases has.1 b _ _ (endsNumber_following as hx) (endsNumber_following bs hy) h with
            ⟨rfl, hrest⟩
          rcases ih has.2 hrest with ⟨rfl, hxy⟩
          exact ⟨rfl, hxy⟩

theorem enclosed_cons (first last : Char) (a : α) (more : List α) (x : Text) :
    enclosed first last w depth (a :: more) ++ x
      = first :: (newLine (depth + 1)
        ++ (w a ++ (following w (depth + 1) more ++ (newLine depth ++ last :: x)))) := by
  simp only [enclosed, List.cons_append, List.append_assoc, List.nil_append]

/-- Members between marks can be told apart if each of them can. -/
theorem legible_enclosed {first last : Char} (hlast : last ≠ '\n') {as : List α}
    (has : ∀ a ∈ as, Legible w a) : Legible (enclosed first last w depth) as := by
  intro bs x y _ _ h
  -- behind the first mark there is the last one, or the new line of a member
  have hmark : ∀ {z z' : Text}, last :: z ≠ newLine (depth + 1) ++ z' := fun heq =>
    hlast (List.cons.inj heq).1
  cases as with
  | nil =>
      cases bs with
      | nil => exact ⟨rfl, (List.cons.inj (List.cons.inj h).2).2⟩
      | cons b bs =>
          rw [enclosed_cons] at h
          exact absurd (List.cons.inj h).2 hmark
  | cons a as =>
      rw [List.forall_mem_cons] at has
      rw [enclosed_cons] at h
      cases bs with
      | nil => exact absurd (List.cons.inj h).2.symm hmark
      | cons b bs =>
          rw [enclosed_cons, List.cons.injEq, List.append_cancel_left_eq] at h
          have hend := head?_newLine depth
          rcases has.1 b _ _ (endsNumber_following as (hend _)) (endsNumber_following bs (hend _))
            h.2 with ⟨rfl, hrest⟩
          rcases following_append_inj has.2 (hend _) (hend _) hrest with ⟨rfl, hmarks⟩
          rw [List.append_cancel_left_eq, List.cons.injEq] at hmarks
          exact ⟨rfl, hmarks.2⟩

end

theorem writeItems_eq (depth : Nat) (items : List Json) :
    writeItems depth items = following (write depth) depth items := by
  induction items with
  | nil => rfl
  | cons item more ih =>
      rw [writeItems, ih, following, following, List.flatMap_cons, List.cons_append]

theorem writeFields_eq (depth : Nat) (fields : List (Text × Json)) :
    writeFields depth fields = following (writeField depth) depth fields := by
  induction fields with
  | nil => rfl
  | cons field more ih =>
      rw [writeFields, ih, following, following, List.flatMap_cons, List.cons_append]

theorem write_list (depth : Nat) (items : List Json) :
    write depth (list items) = enclosed '[' ']' (write (depth + 1)) depth items := by
  cases items with
  | nil => rfl
  | cons item more => rw [write, writeItems_eq, enclosed]

theorem write_record (depth : Nat) (fields : List (Text × Json)) :
    write depth (record fields) = enclosed '\x7b' '\x7d' (writeField (depth + 1)) depth fields := by
  cases fields with
  | nil => rfl
  | cons field more => rw [write, writeFields_eq, enclosed]

/-- The four kinds of values. -/
def kind : Json → Nat
  | text _ => 0
  | number _ => 1
  | list _ => 2
  | record _ => 3

/-- The kind of a value, by its first character. -/
def kindFrom (c : Char) : Nat :=
  if c = '"' then 0 else if c = '[' then 2 else if c = '\x7b' then 3 else 1

theorem kindFrom_digit {c : Char} (h : c.isDigit = true) : kindFrom c = 1 := by
  have hne : ∀ d : Char, d.isDigit = false → c ≠ d := by
    rintro d hd rfl
    rw [h] at hd
    cases hd
  rw [kindFrom, if_neg (hne _ (by decide)), if_neg (hne _ (by decide)), if_neg (hne _ (by decide))]

theorem kindFrom_write (depth : Nat) (v : Json) :
    ∃ c rest, write depth v = c :: rest ∧ kindFrom c = v.kind := by
  cases v with
  | text t => exact ⟨'"', _, by rw [write, writeText], rfl⟩
  | number n =>
      have hne : Text.ofNat n ≠ [] := Nat.toDigits_ne_nil
      rcases List.exists_cons_of_ne_nil hne with ⟨c, rest, h⟩
      have hc : c ∈ Text.ofNat n := h ▸ List.mem_cons_self
      exact ⟨c, rest, by rw [write, h],
        kindFrom_digit (Text.isDigit_of_mem_ofNat hc)⟩
  | list items =>
      rw [write_list]
      cases items <;> exact ⟨'[', _, rfl, rfl⟩
  | record fields =>
      rw [write_record]
      cases fields <;> exact ⟨'\x7b', _, rfl, rfl⟩

/-- Values that are written alike are of one kind. -/
theorem kind_eq_of_write {depth : Nat} {v u : Json} {x y : Text}
    (h : write depth v ++ x = write depth u ++ y) : v.kind = u.kind := by
  rcases kindFrom_write depth v with ⟨c, rest, hv, hc⟩
  rcases kindFrom_write depth u with ⟨d, rest', hu, hd⟩
  rw [hv, hu, List.cons_append, List.cons_append, List.cons.injEq] at h
  rw [← hc, ← hd, h.1]

/-- A field can be told from others if its value can. -/
theorem legible_writeField {depth : Nat} {field : Text × Json}
    (h : Legible (write depth) field.2) : Legible (writeField depth) field := by
  rintro ⟨name, value⟩ x y hx hy heq
  rcases field with ⟨name', value'⟩
  simp only [writeField, List.append_assoc] at heq
  rcases writeText_append_inj heq with ⟨rfl, hvalues⟩
  rcases h value x y hx hy (List.append_cancel_left hvalues) with ⟨rfl, hxy⟩
  exact ⟨rfl, hxy⟩

section

variable {depth : Nat}

theorem legible_text (t : Text) : Legible (write depth) (text t) := by
  intro u x y _ _ h
  have hkind := kind_eq_of_write h
  cases u with
  | text t' =>
      rw [write, write] at h
      rcases writeText_append_inj h with ⟨rfl, hxy⟩
      exact ⟨rfl, hxy⟩
  | _ => cases hkind

theorem legible_number (n : Nat) : Legible (write depth) (number n) := by
  intro u x y hx hy h
  have hkind := kind_eq_of_write h
  cases u with
  | number n' =>
      rw [write, write] at h
      rcases ofNat_append_inj hx hy h with ⟨rfl, hxy⟩
      exact ⟨rfl, hxy⟩
  | _ => cases hkind

theorem legible_list {items : List Json}
    (hitems : ∀ item ∈ items, Legible (write (depth + 1)) item) :
    Legible (write depth) (list items) := by
  intro u x y hx hy h
  have hkind := kind_eq_of_write h
  cases u with
  | list items' =>
      rw [write_list, write_list] at h
      rcases legible_enclosed (by decide) hitems items' x y hx hy h with ⟨rfl, hxy⟩
      exact ⟨rfl, hxy⟩
  | _ => cases hkind

theorem legible_record {fields : List (Text × Json)}
    (hfields : ∀ field ∈ fields, Legible (write (depth + 1)) field.2) :
    Legible (write depth) (record fields) := by
  intro u x y hx hy h
  have hkind := kind_eq_of_write h
  cases u with
  | record fields' =>
      have hnamed : ∀ field ∈ fields, Legible (writeField (depth + 1)) field :=
        fun field hfield => legible_writeField (hfields field hfield)
      rw [write_record, write_record] at h
      rcases legible_enclosed (by decide) hnamed fields' x y hx hy h with ⟨rfl, hxy⟩
      exact ⟨rfl, hxy⟩
  | _ => cases hkind

end

/-- Every value can be told from all others at the same depth. -/
theorem legible_write : ∀ (v : Json) (depth : Nat), Legible (write depth) v
  | text t, _ => legible_text t
  | number n, _ => legible_number n
  | list items, depth => legible_list fun item _hitem => legible_write item (depth + 1)
  | record fields, depth => legible_record fun field _hfield => legible_write field.2 (depth + 1)
termination_by v => sizeOf v
decreasing_by
  · have hlt := List.sizeOf_lt_of_mem _hitem
    simp only [list.sizeOf_spec]
    omega
  · have hlt := List.sizeOf_lt_of_mem _hfield
    rcases field with ⟨name, value⟩
    simp only [record.sizeOf_spec, Prod.mk.sizeOf_spec] at hlt ⊢
    omega

/-- At one depth, values that are written alike are the same. -/
theorem write_injective (depth : Nat) : Function.Injective (write depth) := by
  intro v u h
  have hend : EndsNumber [] := fun c hc => nomatch hc
  have h' : write depth v ++ [] = write depth u ++ [] := by rw [h]
  exact (legible_write v depth u [] [] hend hend h').1

end Json

theorem Kind.name_injective : Function.Injective Kind.name := by
  intro k k'
  cases k <;> cases k' <;> decide

theorem AnchorFault.name_injective : Function.Injective AnchorFault.name := by
  intro r r'
  cases r <;> cases r' <;> decide

theorem Status.toJson_injective : Function.Injective Status.toJson := by
  intro s s' h
  cases s <;> cases s' <;>
    simp only [toJson, Json.record.injEq, List.cons.injEq, Prod.mk.injEq, Json.text.injEq,
      true_and, and_true, reduceCtorEq, and_false] at h
  case added.added => rfl
  case alreadyPresent.alreadyPresent => rfl
  case anchorNotFound.anchorNotFound => rw [AnchorFault.name_injective h]
  -- the words for the other two differ
  all_goals exact absurd h (by decide)

theorem Step.toJson_injective : Function.Injective Step.toJson := by
  rintro ⟨kind, status⟩ ⟨kind', status'⟩ h
  simp only [toJson, Json.record.injEq, List.cons.injEq, Prod.mk.injEq, Json.text.injEq,
    true_and, and_true] at h
  rw [Kind.name_injective h.1, Status.toJson_injective h.2]

theorem Outcome.toJson_injective : Function.Injective Outcome.toJson := by
  intro o o' h
  cases o <;> cases o' <;>
    simp only [toJson, Json.record.injEq, List.cons.injEq, Prod.mk.injEq, Json.text.injEq,
      true_and, and_true, reduceCtorEq, and_false] at h
  case updated.updated => rfl
  case upToDate.upToDate => rfl
  case notFound.notFound => rfl
  case failed.failed => rw [h]
  -- the words for the other three differ
  all_goals exact absurd h (by decide)

theorem PageReport.toJson_injective : Function.Injective PageReport.toJson := by
  rintro ⟨file, tag, steps, outcome⟩ ⟨file', tag', steps', outcome'⟩ h
  simp only [toJson, Json.record.injEq, List.cons.injEq, Prod.mk.injEq, Json.text.injEq,
    Json.list.injEq, true_and, and_true] at h
  rcases h with ⟨rfl, rfl, hsteps, houtcome⟩
  rw [List.map_injective_iff.2 Step.toJson_injective hsteps, Outcome.toJson_injective houtcome]

theorem Summary.toJson_injective : Function.Injective Summary.toJson := by
  rintro ⟨updated, skipped, errors, notFound⟩ ⟨updated', skipped', errors', notFound'⟩ h
  simp only [toJson, Json.record.injEq, List.cons.injEq, Prod.mk.injEq, Json.number.injEq,
    true_and, and_true] at h
  rcases h with ⟨rfl, rfl, rfl, rfl⟩
  rfl

namespace Report

theorem toJson_injective : Function.Injective toJson := by
  rintro ⟨files, summary⟩ ⟨files', summary'⟩ h
  simp only [toJson, Json.record.injEq, List.cons.injEq, Prod.mk.injEq, Json.list.injEq,
    true_and, and_true] at h
  rw [List.map_injective_iff.2 PageReport.toJson_injective h.1, Summary.toJson_injective h.2]

/-- Reports that are written alike are the same, whatever is in their texts. -/
theorem json_inj {r r' : Report} : r.json = r'.json ↔ r = r' :=
  ⟨fun h => toJson_injective (Json.write_injective 0 h), congrArg json⟩

/-- A file name that looks like the end of its field and the start of the next one. -/
example :
    let file : Text := "A.tsx\",\n      \"tag\": \"a".toList
    Report.json ⟨[⟨file, "b".toList, [], .notFound⟩], .zero⟩
      ≠ Report.json ⟨[⟨"A.tsx".toList, "a".toList, [], .notFound⟩], .zero⟩ := by
  decide +kernel

end Report

end HelpWiring
