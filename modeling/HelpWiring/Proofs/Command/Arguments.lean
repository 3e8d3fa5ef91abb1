import HelpWiring.Command.Arguments
import Mathlib.Data.List.Induction
import Mathlib.Data.List.TakeWhile

/-!
# Which Lines Are Accepted

A line is read from front to back, and one thing after another can make it
unusable. Here is the other direction, which says what there is to write.
`Spelled` lists the ways to write settings down: behind a space or an equals
sign, with dashes at the end or without. Reading undoes writing, and accepts
nothing else, so `settings?_eq_some_iff` stands for the whole reader.

What makes sense is a question of its own. `Once` says it for the settings of
a line, and `Asks` for a line: which settings go with which command, where the
root comes from, and what is asked for then.

Help behind a command cuts a line short. `helpIn?_eq_some_iff` says where, and
`Spelled.asksHelp?_eq_none` that no line of settings is cut, because an argument
that asks for help is neither an option nor the value of one.

## Main definitions

* `Setting.name`, `Setting.value`: How a setting is written.
* `Spelled`: The ways to write some settings on a line.
* `roots`, `catalogs`, `kinds`: What some settings say.
* `Once`: Settings that go together.
* `Options.gathered`: Settings put together.
* `Fits`, `Accepted`: Settings that are accepted behind a command.
* `Job.ofSettings`: The run that some settings ask for.
* `Topic.words`: How help on a topic is asked for.
* `Asks`: What a line asks for.

## Theorems

* `ofValue?_eq_some_iff`: The option that a name and a value make.
* `settings?_eq_some_iff`: The lines that can be read, and what they say.
* `ofSettings?_eq_some_iff`: The settings that can be put together.
* `Request.ofArguments?_eq_some_iff`: The lines that are accepted.
-/

namespace HelpWiring

namespace Kind

theorem ofName?_eq_some_iff {word : Text} {k : Kind} : ofName? word = some k ↔ word = k.name := by
  constructor
  · intro h
    have hname := List.find?_some h
    exact (eq_of_beq hname).symm
  · rintro rfl
    cases k <;> rfl

theorem mapM_ofName?_eq_some_iff {words : List Text} {ks : List Kind} :
    words.mapM ofName? = some ks ↔ words = ks.map name := by
  induction words generalizing ks with
  | nil =>
      rw [List.mapM_nil, Option.pure_def, Option.some.injEq, eq_comm (a := ([] : List Text)),
        List.map_eq_nil_iff, eq_comm]
  | cons word words ih =>
      rw [List.mapM_cons]
      simp only [Option.pure_def, Option.bind_eq_bind, Option.bind_eq_some_iff,
        ofName?_eq_some_iff, ih, Option.some.injEq]
      constructor
      · rintro ⟨k, rfl, ks', rfl, rfl⟩
        rfl
      · cases ks with
        | nil => exact fun h => nomatch h
        | cons k ks =>
            intro h
            rw [List.map_cons, List.cons.injEq] at h
            exact ⟨k, h.1, ks, h.2, rfl⟩

theorem comma_notMem_name (k : Kind) : ',' ∉ k.name := by
  cases k <;> decide

end Kind

namespace Setting

/-- The word for an option. -/
def word : Setting → String
  | root _ => "--root"
  | catalog _ => "--catalog"
  | json => "--json"
  | only _ => "--only"

/-- The name of an option. -/
def name (s : Setting) : Text := s.word.toList

/-- The value of an option, as it is written. A flag has none. -/
def value : Setting → Text
  | root path => path
  | catalog path => path
  | json => []
  | only kinds => Text.glue ',' (kinds.map Kind.name)

theorem ofValue?_self {s : Setting} (h : s.value ≠ []) : ofValue? s.name s.value = some s := by
  rw [ofValue?, if_neg h]
  cases s with
  | root path => rw [name, word, if_pos rfl, value]
  | catalog path => rw [name, word, if_neg (by decide), if_pos rfl, value]
  | json => exact absurd rfl h
  | only kinds =>
      have hne : kinds.map Kind.name ≠ [] := fun hnil => h (by rw [value, hnil]; rfl)
      have hcomma : ∀ piece ∈ kinds.map Kind.name, ',' ∉ piece := by
        intro piece hpiece
        rcases List.mem_map.1 hpiece with ⟨k, -, rfl⟩
        exact k.comma_notMem_name
      rw [name, word, if_neg (by decide), if_neg (by decide), if_pos rfl, value,
        Text.cut_glue hne hcomma, Kind.mapM_ofName?_eq_some_iff.2 rfl]
      rfl

/-- A name and a value make the option that they are written for. -/
theorem ofValue?_eq_some_iff {option text : Text} {s : Setting} :
    ofValue? option text = some s ↔ text ≠ [] ∧ option = s.name ∧ text = s.value := by
  constructor
  · intro h
    rw [ofValue?] at h
    by_cases htext : text = []
    · rw [if_pos htext] at h
      cases h
    rw [if_neg htext] at h
    refine ⟨htext, ?_⟩
    by_cases hroot : option = "--root".toList
    · rw [if_pos hroot, Option.some.injEq] at h
      exact h ▸ ⟨hroot, rfl⟩
    rw [if_neg hroot] at h
    by_cases hcatalog : option = "--catalog".toList
    · rw [if_pos hcatalog, Option.some.injEq] at h
      exact h ▸ ⟨hcatalog, rfl⟩
    rw [if_neg hcatalog] at h
    by_cases honly : option = "--only".toList
    · rw [if_pos honly, Option.map_eq_some_iff] at h
      rcases h with ⟨kinds, hkinds, rfl⟩
      have hcut := Kind.mapM_ofName?_eq_some_iff.1 hkinds
      exact ⟨honly, by rw [value, ← hcut, Text.glue_cut]⟩
    · rw [if_neg honly] at h
      cases h
  · rintro ⟨htext, rfl, rfl⟩
    exact ofValue?_self htext

theorem equals_notMem_name (s : Setting) : '=' ∉ s.name := by
  cases s <;> rw [name, word] <;> decide

theorem name_ne_dashes (s : Setting) : s.name ≠ "--".toList := by
  cases s <;> rw [name, word] <;> decide

theorem name_ne_json {s : Setting} (h : s.value ≠ []) : s.name ≠ "--json".toList := by
  cases s with
  | json => exact absurd rfl h
  | root path => rw [name, word]; decide
  | catalog path => rw [name, word]; decide
  | only kinds => rw [name, word]; decide

end Setting

theorem splitArgument_glued {name : Text} (h : '=' ∉ name) (value : Text) :
    splitArgument (name ++ '=' :: value) = (name, some value) := by
  have hname : ∀ c ∈ name, (c != '=') = true := fun c hc => bne_iff_ne.2 fun heq => h (heq ▸ hc)
  rw [splitArgument, List.dropWhile_append_of_pos hname, List.takeWhile_append_of_pos hname]
  simp only [List.dropWhile_cons, List.takeWhile_cons, bne_self_eq_false, Bool.false_eq_true,
    if_false, List.append_nil]

theorem splitArgument_alone {arg : Text} (h : '=' ∉ arg) : splitArgument arg = (arg, none) := by
  have harg : ∀ c ∈ arg, (c != '=') = true := fun c hc => bne_iff_ne.2 fun heq => h (heq ▸ hc)
  rw [splitArgument, List.dropWhile_eq_nil_iff.2 harg]

/-- An argument is what it was split into. -/
theorem eq_of_splitArgument {arg name : Text} {value : Option Text}
    (h : splitArgument arg = (name, value)) :
    arg = match value with
      | none => name
      | some value => name ++ '=' :: value := by
  rw [splitArgument] at h
  cases hdrop : arg.dropWhile (· != '=') with
  | nil =>
      rw [hdrop] at h
      cases h
      rfl
  | cons c rest =>
      rw [hdrop] at h
      cases h
      -- the search stops at an equals sign
      have hc : c = '=' := by
        have hstop := List.head?_dropWhile_not (· != '=') arg
        rw [hdrop] at hstop
        simpa using hstop
      have hparts := List.takeWhile_append_dropWhile (p := (· != '=')) (l := arg)
      rw [hdrop, hc] at hparts
      exact hparts.symm

/-- The ways to write some settings on a line. -/
inductive Spelled : List Text → List Setting → Prop
  | done : Spelled [] []
  /-- Two dashes end the options, and nothing follows. -/
  | dashes : Spelled ["--".toList] []
  | flag {args : List Text} {ss : List Setting} (h : Spelled args ss) :
      Spelled (Setting.json.name :: args) (.json :: ss)
  /-- The value is behind an equals sign. -/
  | joined {args : List Text} {ss : List Setting} {s : Setting} (hvalue : s.value ≠ [])
      (h : Spelled args ss) : Spelled ((s.name ++ '=' :: s.value) :: args) (s :: ss)
  /-- The value is the next argument. -/
  | apart {args : List Text} {ss : List Setting} {s : Setting} (hvalue : s.value ≠ [])
      (hlooks : looksLikeOption s.value = false) (h : Spelled args ss) :
      Spelled (s.name :: s.value :: args) (s :: ss)

theorem settings?_of_spelled {args : List Text} {ss : List Setting} (h : Spelled args ss) :
    settings? args = some ss := by
  induction h with
  | done => rfl
  | dashes => rfl
  | flag h ih =>
      have hsplit := splitArgument_alone Setting.json.equals_notMem_name
      have hname : Setting.json.name = "--json".toList := rfl
      rw [settings?, if_neg Setting.json.name_ne_dashes, hsplit]
      simp only [if_pos hname, ih, Option.map_some]
  | @joined args ss s hvalue h ih =>
      have hdashes : s.name ++ '=' :: s.value ≠ "--".toList := by
        intro heq
        have hmem : '=' ∈ s.name ++ '=' :: s.value := List.mem_append_right _ List.mem_cons_self
        rw [heq] at hmem
        exact absurd hmem (by decide)
      rw [settings?, if_neg hdashes, splitArgument_glued s.equals_notMem_name]
      simp only [Setting.ofValue?_self hvalue, ih, Option.bind_eq_bind, Option.bind_some,
        Option.pure_def]
  | @apart args ss s hvalue hlooks h ih =>
      rw [settings?, if_neg s.name_ne_dashes, splitArgument_alone s.equals_notMem_name]
      simp only [if_neg (Setting.name_ne_json hvalue), hlooks, Bool.false_eq_true, if_false,
        Setting.ofValue?_self hvalue, ih, Option.bind_eq_bind, Option.bind_some, Option.pure_def]

theorem spelled_of_settings? {args : List Text} {ss : List Setting}
    (h : settings? args = some ss) : Spelled args ss := by
  -- along the reader: each of its cases reads an argument in one way, or refuses the line
  induction args using settings?.induct generalizing ss with
  | case1 =>
      cases h
      exact .done
  | case2 =>
      cases h
      exact .dashes
  | case3 more hmore =>
      rw [settings?, if_pos rfl, if_neg hmore] at h
      cases h
  | case4 arg more hdashes name value hsplit ih =>
      rw [settings?, if_neg hdashes, hsplit] at h
      simp only [Option.bind_eq_bind, Option.bind_eq_some_iff, Option.pure_def,
        Option.some.injEq] at h
      rcases h with ⟨s, hs, rest, hrest, rfl⟩
      rcases Setting.ofValue?_eq_some_iff.1 hs with ⟨hvalue, rfl, rfl⟩
      rw [eq_of_splitArgument hsplit]
      exact .joined hvalue (ih hrest)
  | case5 arg more hdashes hsplit ih =>
      rw [settings?, if_neg hdashes, hsplit] at h
      simp only [if_true, Option.map_eq_some_iff] at h
      rcases h with ⟨rest, hrest, rfl⟩
      rw [eq_of_splitArgument hsplit]
      exact .flag (ih hrest)
  | case6 arg hdashes name hsplit hjson =>
      rw [settings?, if_neg hdashes, hsplit] at h
      simp only [if_neg hjson, reduceCtorEq] at h
  | case7 arg hdashes name hsplit hjson value more hlooks =>
      rw [settings?, if_neg hdashes, hsplit] at h
      simp only [if_neg hjson, if_pos hlooks, reduceCtorEq] at h
  | case8 arg hdashes name hsplit hjson value more hlooks ih =>
      rw [settings?, if_neg hdashes, hsplit] at h
      simp only [if_neg hjson, if_neg hlooks, Option.bind_eq_bind, Option.bind_eq_some_iff,
        Option.pure_def, Option.some.injEq] at h
      rcases h with ⟨s, hs, rest, hrest, rfl⟩
      rcases Setting.ofValue?_eq_some_iff.1 hs with ⟨hvalue, rfl, rfl⟩
      rw [eq_of_splitArgument hsplit]
      exact .apart hvalue (Bool.not_eq_true _ ▸ hlooks) (ih hrest)

/-- A line can be read exactly if it is a way to write some settings, and then as these. -/
theorem settings?_eq_some_iff {args : List Text} {ss : List Setting} :
    settings? args = some ss ↔ Spelled args ss :=
  ⟨spelled_of_settings?, settings?_of_spelled⟩

namespace Setting

/-- The root that a setting names. -/
def root? : Setting → Option Text
  | root path => some path
  | _ => none

/-- The catalog that a setting names. -/
def catalog? : Setting → Option Text
  | catalog path => some path
  | _ => none

/-- The fragments that a setting names. -/
def kinds : Setting → List Kind
  | only kinds => kinds
  | _ => []

end Setting

/-- The roots that some settings name. -/
def roots (ss : List Setting) : List Text := ss.filterMap Setting.root?

/-- The catalogs that some settings name. -/
def catalogs (ss : List Setting) : List Text := ss.filterMap Setting.catalog?

/-- The fragments that some settings name. -/
def kinds (ss : List Setting) : List Kind := ss.flatMap Setting.kinds

theorem roots_concat (ss : List Setting) (s : Setting) :
    roots (ss ++ [s]) = roots ss ++ s.root?.toList := by
  cases s <;> simp [roots, Setting.root?]

theorem catalogs_concat (ss : List Setting) (s : Setting) :
    catalogs (ss ++ [s]) = catalogs ss ++ s.catalog?.toList := by
  cases s <;> simp [catalogs, Setting.catalog?]

/-- Settings that go together: only the one for fragments is given more than once. -/
structure Once (ss : List Setting) : Prop where
  root : (roots ss).length ≤ 1
  catalog : (catalogs ss).length ≤ 1
  json : ss.count .json ≤ 1

theorem Once.of_concat {ss : List Setting} {s : Setting} (h : Once (ss ++ [s])) : Once ss where
  root := by
    have hroot := h.root
    rw [roots_concat, List.length_append] at hroot
    omega
  catalog := by
    have hcatalog := h.catalog
    rw [catalogs_concat, List.length_append] at hcatalog
    omega
  json := by
    have hjson := h.json
    rw [List.count_append] at hjson
    omega

namespace Options

/-- Some settings put together, whatever is repeated. -/
def gathered (ss : List Setting) : Options :=
  ⟨(roots ss).head?, (catalogs ss).head?, decide (.json ∈ ss), kinds ss⟩

theorem ofSettings?_concat (ss : List Setting) (s : Setting) :
    ofSettings? (ss ++ [s]) = (ofSettings? ss).bind fun o => o.add? s := by
  rw [ofSettings?, List.foldlM_append]
  simp only [List.foldlM_cons, List.foldlM_nil, ofSettings?, Option.bind_eq_bind, Option.pure_def,
    Option.bind_fun_some]

theorem once_concat (ss : List Setting) (s : Setting) :
    Once (ss ++ [s]) ↔ (roots ss ++ s.root?.toList).length ≤ 1
      ∧ (catalogs ss ++ s.catalog?.toList).length ≤ 1 ∧ ss.count .json + [s].count .json ≤ 1 := by
  rw [← roots_concat, ← catalogs_concat, ← List.count_append]
  exact ⟨fun h => ⟨h.root, h.catalog, h.json⟩, fun h => ⟨h.1, h.2.1, h.2.2⟩⟩

theorem gathered_concat (ss : List Setting) (s : Setting) :
    gathered (ss ++ [s]) = ⟨(roots ss ++ s.root?.toList).head?,
      (catalogs ss ++ s.catalog?.toList).head?, decide (.json ∈ ss ∨ .json = s),
      kinds ss ++ s.kinds⟩ := by
  simp only [gathered, roots_concat, catalogs_concat, kinds, List.flatMap_append,
    List.flatMap_singleton, List.mem_append, List.mem_singleton]

/-- One more setting can be added if it still goes together with the others. -/
theorem add?_gathered {ss : List Setting} {s : Setting} {o : Options} (h : Once ss) :
    (gathered ss).add? s = some o ↔ Once (ss ++ [s]) ∧ gathered (ss ++ [s]) = o := by
  -- an option that was given before shows in what is gathered, and then both sides fail
  rw [once_concat, gathered_concat]
  have hroot := h.root
  have hcatalog := h.catalog
  have hjson := h.json
  cases s with
  | root path =>
      rcases hr : roots ss with _ | ⟨p, ps⟩ <;>
        simp [gathered, add?, Setting.root?, Setting.catalog?, Setting.kinds, hr, hcatalog, hjson]
  | catalog path =>
      rcases hc : catalogs ss with _ | ⟨p, ps⟩ <;>
        simp [gathered, add?, Setting.root?, Setting.catalog?, Setting.kinds, hc, hroot, hjson]
  | json =>
      by_cases hj : Setting.json ∈ ss
      · have hmore : ¬ ss.count .json + [Setting.json].count .json ≤ 1 := by
          have hcount : 0 < ss.count .json := List.count_pos_iff.2 hj
          rw [List.count_singleton_self]
          omega
        have hadd : (gathered ss).add? .json = none := by simp [gathered, add?, hj]
        rw [hadd]
        exact iff_of_false (fun h => nomatch h) fun h => hmore h.1.2.2
      · simp [gathered, add?, Setting.root?, Setting.catalog?, Setting.kinds, hj, hroot, hcatalog,
          List.count_eq_zero.2 hj]
  | only ks =>
      simp [gathered, add?, Setting.root?, Setting.catalog?, Setting.kinds, hroot, hcatalog, hjson]

/-- Settings can be put together exactly if they go together. -/
theorem ofSettings?_eq_some_iff {ss : List Setting} {o : Options} :
    ofSettings? ss = some o ↔ Once ss ∧ gathered ss = o := by
  -- settings are added at the end, so the last one is taken off
  induction ss using List.reverseRecOn generalizing o with
  | nil =>
      have honce : Once [] := ⟨Nat.zero_le 1, Nat.zero_le 1, Nat.zero_le 1⟩
      rw [and_iff_right honce]
      exact Option.some_inj
  | append_singleton ss s ih =>
      rw [ofSettings?_concat, Option.bind_eq_some_iff]
      constructor
      · rintro ⟨o', ho', ho⟩
        rcases ih.1 ho' with ⟨honce, rfl⟩
        exact (add?_gathered honce).1 ho
      · intro h
        have honce : Once ss := h.1.of_concat
        exact ⟨gathered ss, ih.2 ⟨honce, rfl⟩, (add?_gathered honce).2 h⟩

theorem rootWith?_gathered {ss : List Setting} {environment : Option Text} {path : Text} :
    (gathered ss).rootWith? environment = some path
      ↔ (roots ss = [] → environment ≠ some [])
        ∧ ((roots ss).head?.or environment).getD standardRoot = path := by
  simp only [rootWith?, gathered]
  rcases roots ss with _ | ⟨root, more⟩
  · rcases environment with _ | _ | ⟨c, rest⟩ <;>
      simp only [List.head?_nil, Option.none_or, Option.getD_none, Option.getD_some, ne_eq,
        reduceCtorEq, not_false_eq_true, not_true_eq_false, implies_true, true_implies,
        true_and, false_and, Option.some.injEq, List.cons_ne_nil]
  · simp only [List.head?_cons, Option.some_or, Option.getD_some, reduceCtorEq, false_implies,
      true_and, Option.some.injEq]

end Options

/-- Settings that go with a command. -/
structure Fits (mode : Mode) (ss : List Setting) : Prop where
  once : Once ss
  /-- Removing repeated imports takes no selection of fragments. -/
  kinds : mode = .clean → kinds ss = []

/-- Settings that are accepted behind a command. -/
structure Accepted (mode : Mode) (environment : Option Text) (ss : List Setting) : Prop
    extends Fits mode ss where
  /-- The root that the environment names must not be empty if it counts. -/
  environment : roots ss = [] → environment ≠ some []

theorem Options.ofArguments?_eq_some_iff {mode : Mode} {args : List Text} {o : Options} :
    ofArguments? mode args = some o ↔ ∃ ss, Spelled args ss ∧ Fits mode ss ∧ gathered ss = o := by
  simp only [ofArguments?, Option.bind_eq_bind, Option.bind_eq_some_iff, settings?_eq_some_iff,
    ofSettings?_eq_some_iff, Option.pure_def]
  constructor
  · rintro ⟨ss, hspelled, o', ⟨honce, rfl⟩, ho⟩
    by_cases hkinds : mode = .clean ∧ (gathered ss).only ≠ []
    · rw [if_pos hkinds] at ho
      cases ho
    · rw [if_neg hkinds, Option.some.injEq] at ho
      have hnone : mode = .clean → kinds ss = [] := fun hmode =>
        Classical.not_not.1 fun hne => hkinds ⟨hmode, hne⟩
      exact ⟨ss, hspelled, ⟨honce, hnone⟩, ho⟩
  · rintro ⟨ss, hspelled, hfits, rfl⟩
    refine ⟨ss, hspelled, _, ⟨hfits.once, rfl⟩, ?_⟩
    rw [if_neg fun h => h.2 (hfits.kinds h.1)]

/-- The run that some settings ask for. The root is the one on the line, else the one in
    the environment, else the usual one. -/
def Job.ofSettings (mode : Mode) (environment : Option Text) (ss : List Setting) : Job where
  mode := mode
  root := ((roots ss).head?.or environment).getD standardRoot
  catalogPath := (catalogs ss).head?
  json := decide (.json ∈ ss)
  wanted := if kinds ss = [] then .all else .ofKinds (kinds ss)

theorem Job.ofArguments?_eq_some_iff {mode : Mode} {args : List Text}
    {environment : Option Text} {job : Job} :
    ofArguments? mode args environment = some job
      ↔ ∃ ss, Spelled args ss ∧ Accepted mode environment ss
        ∧ ofSettings mode environment ss = job := by
  simp only [ofArguments?, Option.bind_eq_bind, Option.bind_eq_some_iff,
    Options.ofArguments?_eq_some_iff, Option.pure_def, Option.some.injEq]
  constructor
  · rintro ⟨o, ⟨ss, hspelled, hfits, rfl⟩, root, hroot, hjob⟩
    rcases Options.rootWith?_gathered.1 hroot with ⟨henvironment, rfl⟩
    exact ⟨ss, hspelled, ⟨hfits, henvironment⟩, hjob⟩
  · rintro ⟨ss, hspelled, haccepted, rfl⟩
    have hroot := Options.rootWith?_gathered.2 ⟨haccepted.environment, rfl⟩
    exact ⟨_, ⟨ss, hspelled, haccepted.toFits, rfl⟩, _, hroot, rfl⟩

theorem Mode.ofWord?_eq_some_iff {arg : Text} {mode : Mode} :
    ofWord? arg = some mode ↔ arg = mode.word.toList := by
  constructor
  · intro h
    have hword := List.find?_some h
    exact (eq_of_beq hword).symm
  · rintro rfl
    cases mode <;> decide

/-- How help on a topic is asked for, behind the command for help. -/
def Topic.words : Topic → List Text
  | program => []
  | command mode => [mode.word.toList]
  | help => ["help".toList]

theorem Topic.ofArguments?_eq_some_iff {args : List Text} {topic : Topic} :
    ofArguments? args = some topic ↔ args = topic.words := by
  constructor
  · intro h
    rcases args with _ | ⟨arg, _ | ⟨more, rest⟩⟩
    · cases h
      rfl
    · rw [ofArguments?] at h
      by_cases hhelp : arg = "help".toList
      · rw [if_pos hhelp, Option.some.injEq] at h
        rw [← h, hhelp, words]
      · rw [if_neg hhelp, Option.map_eq_some_iff] at h
        rcases h with ⟨mode, hmode, rfl⟩
        rw [Mode.ofWord?_eq_some_iff.1 hmode, words]
    · cases h
  · rintro rfl
    cases topic with
    | program => rfl
    | command mode => cases mode <;> decide
    | help => decide

theorem helpIn?_eq_none_iff {args : List Text} :
    helpIn? args = none ↔ ∀ arg ∈ args, asksHelp? arg = none := by
  induction args with
  | nil => exact iff_of_true rfl fun arg harg => absurd harg List.not_mem_nil
  | cons arg args ih =>
      rw [helpIn?, List.forall_mem_cons]
      cases asksHelp? arg with
      | some long => exact iff_of_false (fun h => nomatch h) fun h => nomatch h.1
      | none => rw [Option.map_eq_none_iff, ih, and_iff_right rfl]

/-- A line is cut at the first argument that asks for help. -/
theorem helpIn?_eq_some_iff {args front : List Text} {long : Bool} :
    helpIn? args = some (front, long) ↔ (∀ arg ∈ front, asksHelp? arg = none)
      ∧ ∃ arg rest, asksHelp? arg = some long ∧ args = front ++ arg :: rest := by
  induction args generalizing front with
  | nil =>
      refine iff_of_false (fun h => nomatch h) ?_
      rintro ⟨-, arg, rest, -, hargs⟩
      cases front <;> cases hargs
  | cons first args ih =>
      rw [helpIn?]
      cases hfirst : asksHelp? first with
      | some found =>
          simp only [Option.some.injEq, Prod.mk.injEq]
          constructor
          · rintro ⟨rfl, rfl⟩
            exact ⟨fun arg harg => absurd harg List.not_mem_nil, first, args, hfirst, rfl⟩
          · rintro ⟨hfront, arg, rest, harg, hargs⟩
            cases front with
            | nil =>
                cases hargs
                exact ⟨rfl, Option.some.inj (hfirst.symm.trans harg)⟩
            | cons other front =>
                cases hargs
                rw [hfront first List.mem_cons_self] at hfirst
                cases hfirst
      | none =>
          simp only [Option.map_eq_some_iff, Prod.exists, Prod.mk.injEq]
          constructor
          · rintro ⟨front', long', hhelp, rfl, rfl⟩
            rcases ih.1 hhelp with ⟨hfront, arg, rest, harg, rfl⟩
            exact ⟨List.forall_mem_cons.2 ⟨hfirst, hfront⟩, arg, rest, harg, rfl⟩
          · rintro ⟨hfront, arg, rest, harg, hargs⟩
            cases front with
            | nil =>
                cases hargs
                rw [hfirst] at harg
                cases harg
            | cons other front =>
                cases hargs
                exact ⟨front, long,
                  ih.2 ⟨(List.forall_mem_cons.1 hfront).2, arg, rest, harg, rfl⟩, rfl, rfl⟩

theorem Setting.asksHelp?_name_append (s : Setting) (behind : Text) :
    asksHelp? (s.name ++ behind) = none := by
  cases s <;> simp [asksHelp?, name, word]

theorem asksHelp?_of_not_looksLikeOption {arg : Text} (h : looksLikeOption arg = false) :
    asksHelp? arg = none := by
  rw [asksHelp?]
  split_ifs with hlong hshort
  · rw [hlong] at h
    exact absurd h (by decide)
  · rcases List.isPrefixOf_iff_prefix.1 hshort with ⟨behind, rfl⟩
    exact absurd h (by simp [looksLikeOption])
  · rfl

/-- Where settings are written down, nothing asks for help. -/
theorem Spelled.asksHelp?_eq_none {args : List Text} {ss : List Setting} (h : Spelled args ss) :
    ∀ arg ∈ args, asksHelp? arg = none := by
  have hname : ∀ s : Setting, asksHelp? s.name = none := fun s => by
    have hs := s.asksHelp?_name_append []
    rwa [List.append_nil] at hs
  induction h with
  | done => exact fun arg harg => absurd harg List.not_mem_nil
  | dashes => exact List.forall_mem_singleton.2 (by decide)
  | flag h ih => exact List.forall_mem_cons.2 ⟨hname _, ih⟩
  | joined hvalue h ih => exact List.forall_mem_cons.2 ⟨Setting.asksHelp?_name_append _ _, ih⟩
  | apart hvalue hlooks h ih =>
      exact List.forall_mem_cons.2 ⟨hname _, List.forall_mem_cons.2
        ⟨asksHelp?_of_not_looksLikeOption hlooks, ih⟩⟩

theorem not_asksVersion_of_asksHelp? {arg : Text} {long : Bool} (h : asksHelp? arg = some long) :
    ¬ asksVersion arg = true := by
  rw [asksHelp?] at h
  split_ifs at h with hlong hshort
  · rw [hlong]
    decide
  · rcases List.isPrefixOf_iff_prefix.1 hshort with ⟨behind, rfl⟩
    simp [asksVersion]

/-- What a line asks for. -/
inductive Asks (environment : Option Text) : List Text → Request → Prop
  | version {arg : Text} (rest : List Text) (h : asksVersion arg = true) :
      Asks environment (arg :: rest) .version
  | help {arg : Text} {long : Bool} (rest : List Text) (h : asksHelp? arg = some long) :
      Asks environment (arg :: rest) (.help .program long)
  /-- Help that is asked for by its own command. -/
  | topic (topic : Topic) : Asks environment ("help".toList :: topic.words) (.help topic true)
  /-- Help behind a command. The settings in front of it have to go with the command, and
      nothing is asked of what follows. -/
  | behind {mode : Mode} {front : List Text} {ss : List Setting} {arg : Text} {long : Bool}
      (rest : List Text) (hspelled : Spelled front ss) (hdashes : "--".toList ∉ front)
      (hfits : Fits mode ss) (h : asksHelp? arg = some long) :
      Asks environment (mode.word.toList :: (front ++ arg :: rest)) (.help (.command mode) long)
  | work {mode : Mode} {args : List Text} {ss : List Setting} (hspelled : Spelled args ss)
      (h : Accepted mode environment ss) :
      Asks environment (mode.word.toList :: args) (.work (.ofSettings mode environment ss))

theorem asks_of_ofOptions? {mode : Mode} {args : List Text} {environment : Option Text}
    {request : Request} (h : Request.ofOptions? mode args environment = some request) :
    Asks environment (mode.word.toList :: args) request := by
  rw [Request.ofOptions?] at h
  rcases hhelp : helpIn? args with _ | ⟨front, long⟩
  · rw [hhelp] at h
    rcases Option.map_eq_some_iff.1 h with ⟨job, hjob, rfl⟩
    rcases Job.ofArguments?_eq_some_iff.1 hjob with ⟨ss, hspelled, haccepted, rfl⟩
    exact .work hspelled haccepted
  · simp only [hhelp] at h
    rcases helpIn?_eq_some_iff.1 hhelp with ⟨-, arg, rest, harg, rfl⟩
    by_cases hdashes : front.contains "--".toList = true
    · rw [if_pos hdashes] at h
      cases h
    · rw [if_neg hdashes, Option.map_eq_some_iff] at h
      rcases h with ⟨o, ho, rfl⟩
      rcases Options.ofArguments?_eq_some_iff.1 ho with ⟨ss, hspelled, hfits, -⟩
      rw [List.contains_iff_mem] at hdashes
      exact .behind rest hspelled hdashes hfits harg

theorem ofOptions?_of_accepted {mode : Mode} {args : List Text} {environment : Option Text}
    {ss : List Setting} (hspelled : Spelled args ss) (h : Accepted mode environment ss) :
    Request.ofOptions? mode args environment = some (.work (.ofSettings mode environment ss)) := by
  rw [Request.ofOptions?, helpIn?_eq_none_iff.2 hspelled.asksHelp?_eq_none]
  simp only [Job.ofArguments?_eq_some_iff.2 ⟨ss, hspelled, h, rfl⟩, Option.map_some]

theorem ofOptions?_of_fits {mode : Mode} {front rest : List Text} {environment : Option Text}
    {ss : List Setting} {arg : Text} {long : Bool} (hspelled : Spelled front ss)
    (hdashes : "--".toList ∉ front) (hfits : Fits mode ss) (harg : asksHelp? arg = some long) :
    Request.ofOptions? mode (front ++ arg :: rest) environment
      = some (.help (.command mode) long) := by
  have hhelp : helpIn? (front ++ arg :: rest) = some (front, long) :=
    helpIn?_eq_some_iff.2 ⟨hspelled.asksHelp?_eq_none, arg, rest, harg, rfl⟩
  rw [← List.contains_iff_mem] at hdashes
  rw [Request.ofOptions?, hhelp]
  simp only [if_neg hdashes, Options.ofArguments?_eq_some_iff.2 ⟨ss, hspelled, hfits, rfl⟩,
    Option.map_some]

theorem Request.ofArguments?_of_mode (mode : Mode) (args : List Text)
    (environment : Option Text) : ofArguments? (mode.word.toList :: args) environment
      = ofOptions? mode args environment := by
  cases mode <;> rfl

/-- A line is accepted exactly if it asks for something, and then as that. -/
theorem Request.ofArguments?_eq_some_iff {args : List Text} {environment : Option Text}
    {request : Request} :
    ofArguments? args environment = some request ↔ Asks environment args request := by
  constructor
  · intro h
    cases args with
    | nil => cases h
    | cons arg rest =>
        rw [ofArguments?] at h
        by_cases hversion : asksVersion arg = true
        · rw [if_pos hversion, Option.some.injEq] at h
          exact h ▸ .version rest hversion
        rw [if_neg hversion] at h
        cases hasks : asksHelp? arg with
        | some long =>
            simp only [hasks, Option.some.injEq] at h
            exact h ▸ .help rest hasks
        | none =>
            simp only [hasks] at h
            by_cases hhelp : arg = "help".toList
            · rw [if_pos hhelp, Option.map_eq_some_iff] at h
              rcases h with ⟨topic, htopic, rfl⟩
              rw [hhelp, Topic.ofArguments?_eq_some_iff.1 htopic]
              exact .topic topic
            rw [if_neg hhelp] at h
            cases hmode : Mode.ofWord? arg with
            | none =>
                rw [hmode] at h
                cases h
            | some mode =>
                simp only [hmode] at h
                rw [Mode.ofWord?_eq_some_iff.1 hmode]
                exact asks_of_ofOptions? h
  · intro h
    cases h with
    | version rest h => rw [ofArguments?, if_pos h]
    | help rest h =>
        have hversion : ¬ asksVersion _ = true := not_asksVersion_of_asksHelp? h
        simp only [ofArguments?, if_neg hversion, h]
    | topic topic =>
        have hnames := Topic.ofArguments?_eq_some_iff.2 (rfl : topic.words = topic.words)
        have hplain : asksHelp? "help".toList = none := by decide
        rw [ofArguments?, if_neg (by decide)]
        simp only [hplain, if_true, hnames, Option.map_some]
    | behind rest hspelled hdashes hfits h =>
        rw [ofArguments?_of_mode, ofOptions?_of_fits hspelled hdashes hfits h]
    | work hspelled h => rw [ofArguments?_of_mode, ofOptions?_of_accepted hspelled h]

end HelpWiring
