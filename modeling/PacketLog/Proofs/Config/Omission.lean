import Mathlib
import PacketLog.Config.Load
import PacketLog.Proofs.Config.Given

/-! # What a configuration file can leave out

A default need not be written out: not in a table, not at the end of a row, and a part that gives
nothing but defaults need not be there (`Omits`). A document that leaves such things out is read as
the same settings as one that has them, or fails with the same error (`Omits.agree`,
`complete_of_omits`), and a document of which nothing remains is as good as no file
(`omissions_change_nothing`).
-/

namespace PacketLog

namespace Assignment

/-- Two assignments that come to the same when the defaults are filled in. -/
def Same (values values' : Assignment) : Prop := values.complete = values'.complete

/-- Giving the default changes nothing where nothing else is given. -/
theorem same_update {values : Assignment} {s : Setting} (absent : values s = none)
    {value : Value} (default : s.default? = some value) :
    Same values (Function.update values s (some value)) := by
  funext other
  by_cases here : other = s
  · subst here
    rw [complete, complete, Function.update_self, absent, default]
    rfl
  · rw [complete, complete, Function.update_of_ne here]

/-- Settings that are given do not depend on what was given before. -/
theorem Same.update {values values' : Assignment} (same : Same values values') (s : Setting)
    (value : Option Value) :
    Same (Function.update values s value) (Function.update values' s value) := by
  funext other
  by_cases here : other = s
  · subst here
    rw [complete, complete, Function.update_self, Function.update_self]
  · rw [complete, complete, Function.update_of_ne here, Function.update_of_ne here]
    exact congrFun same other

/-- A part comes to the same among others that come to the same. -/
theorem Same.enter {inner inner' values values' : Assignment} (p : FilePart)
    (here : Same inner inner') (there : Same values values') :
    Same (p.enter inner values) (p.enter inner' values') := by
  funext s
  rw [complete, complete, FilePart.enter, FilePart.enter]
  split
  · exact congrFun here s
  · exact congrFun there s

end Assignment

open Assignment

/-! ## Reading -/

private theorem Setting.field_same (s : Setting) : Field.Alike Same s.field s.field where
  name := rfl
  required := rfl
  reads := by
    intro values values' node same
    rw [field]
    dsimp only
    cases s.read node with
    | ok value => exact .ok (same.update s (some value))
    | error e => exact .error e

private theorem FilePart.field_same (p : FilePart) : Field.Alike Same p.field p.field where
  name := rfl
  required := rfl
  reads := by
    intro values values' node same
    rw [field]
    dsimp only
    cases p.read node with
    | ok inner => exact .ok (.enter p rfl same)
    | error e => exact .error e

private theorem fields_same (settings : List Setting) :
    List.Forall₂ (Field.Alike Same) (settings.map Setting.field) (settings.map Setting.field) :=
  List.forall₂_same.mpr (List.forall_mem_map.mpr fun s _ => s.field_same)

private theorem parts_same :
    List.Forall₂ (Field.Alike Same) (FilePart.all.map FilePart.field)
      (FilePart.all.map FilePart.field) :=
  List.forall₂_same.mpr (List.forall_mem_map.mpr fun p _ => p.field_same)

section Tables

variable {σ : Type} {fields : List (Field σ)}

private theorem readTable_cons (start : σ) (entry : String × Toml.Node) (rest : Toml.Entries) :
    readTable fields start (entry :: rest) =
      (match fields.find? (·.name == entry.1) with
        | some field => field.read start entry.2
        | none => .ok start) >>= fun part => readTable fields part rest :=
  List.foldlM_cons

private theorem readTable_append (start : σ) (before after : Toml.Entries) :
    readTable fields start (before ++ after) =
      readTable fields start before >>= fun part => readTable fields part after :=
  List.foldlM_append

private theorem readTable_singleton (start : σ) {entry : String × Toml.Node} {f : Field σ}
    (found : fields.find? (·.name == entry.1) = some f) :
    readTable fields start [entry] = f.read start entry.2 := by
  rw [readTable_cons, found]
  dsimp only
  generalize f.read start entry.2 = result
  cases result <;> rfl

/-- What no other setting writes stays as it is in a table that does not name the one that does. -/
theorem readTable_untouched {τ : Type} (part : σ → τ) {name : String}
    (others : ∀ f ∈ fields, f.name ≠ name → ∀ {a b node}, f.read a node = .ok b → part b = part a)
    {entries : Toml.Entries} (absent : ∀ entry ∈ entries, entry.1 ≠ name) {start stop : σ}
    (read : readTable fields start entries = .ok stop) : part stop = part start := by
  induction entries generalizing start with
  | nil =>
      obtain rfl := Except.ok.inj read
      rfl
  | cons entry rest ih =>
      have here := absent entry List.mem_cons_self
      have later {next : σ} (read : readTable fields next rest = .ok stop) :
          part stop = part next :=
        ih (fun other member => absent other (List.mem_cons_of_mem _ member)) read
      rw [readTable_cons] at read
      cases found : fields.find? (·.name == entry.1) with
      | none =>
          rw [found] at read
          exact later read
      | some f =>
          have named : f.name = entry.1 := by simpa using List.find?_some found
          rw [found] at read
          dsimp only at read
          cases step : f.read start entry.2 with
          | error e =>
              rw [step] at read
              exact nomatch read
          | ok next =>
              rw [step] at read
              have stays := others f (List.mem_of_find?_eq_some found) (named ▸ here) step
              exact (later read).trans stays

end Tables

/-- **One entry more** makes no difference if it does not where it is read. -/
theorem readTable_insert {fields : List (Field Assignment)}
    (congruent : List.Forall₂ (Field.Alike Same) fields fields) (start : Assignment)
    (before after : Toml.Entries) (entry : String × Toml.Node)
    (silent : ∀ values, readTable fields start before = .ok values →
      ∃ values', readTable fields values [entry] = .ok values' ∧ Same values values') :
    Agree Same (readTable fields start (before ++ after))
      (readTable fields start (before ++ entry :: after)) := by
  rw [readTable_append, readTable_append]
  cases reached : readTable fields start before with
  | error e => exact .error e
  | ok values =>
      obtain ⟨values', read, same⟩ := silent values reached
      change Agree Same (readTable fields values after) (readTable fields values ([entry] ++ after))
      rw [readTable_append, read]
      exact readTable_agree congruent same after

/-! ## One setting more -/

namespace FilePart

/-- A part that leaves a setting out, and the same part with the default of that setting written
out: in a table, or at the end of a row. -/
inductive LeavesOut (p : FilePart) : Toml.Node → Toml.Node → Prop
  | table (origin : Toml.Origin) (before after : Toml.Entries) {s : Setting} {value : Value}
      {node : Toml.Node} (belongs : s.part = p) (default : s.default? = some value)
      (written : s.read node = .ok value) (absent : ∀ entry ∈ before ++ after, entry.1 ≠ s.name) :
      LeavesOut p (.table origin (before ++ after))
        (.table origin (before ++ (s.name, node) :: after))
  | row {items : List Toml.Node} {s : Setting} {value : Value} {node : Toml.Node}
      (next : p.settings[items.length]? = some s) (default : s.default? = some value)
      (written : s.read node = .ok value) :
      LeavesOut p (.array items) (.array (items ++ [node]))

/-- A part that gives nothing but defaults. -/
def Silent (p : FilePart) (node : Toml.Node) : Prop :=
  ∃ values, p.read node = .ok values ∧ ∀ s, values s = none ∨ values s = s.default?

end FilePart

private theorem Setting.find?_field {s : Setting} {p : FilePart} (belongs : s.part = p) :
    (p.settings.map Setting.field).find? (·.name == s.name) = some s.field := by
  subst belongs
  cases s <;> rfl

/-- Reading one setting leaves the others alone. -/
theorem Setting.field_other {s t : Setting} (different : s ≠ t) {values next : Assignment}
    {node : Toml.Node} (read : t.field.read values node = .ok next) : next s = values s := by
  rw [field] at read
  dsimp only at read
  cases value : t.read node with
  | error e =>
      rw [value] at read
      cases read
  | ok v =>
      rw [value] at read
      obtain rfl := Except.ok.inj read
      exact Function.update_of_ne different _ _

/-- Reading the default of a setting that nothing was given for makes no difference. -/
theorem Setting.field_default {s : Setting} {value : Value} {node : Toml.Node}
    (default : s.default? = some value) (written : s.read node = .ok value) {values : Assignment}
    (absent : values s = none) :
    ∃ values', s.field.read values node = .ok values' ∧ Same values values' := by
  refine ⟨Function.update values s (some value), ?_, same_update absent default⟩
  rw [field]
  dsimp only
  rw [written]
  rfl

/-- **At the end of a row** a default can be left out. -/
theorem readRow_append_default {settings : List Setting} (distinct : settings.Nodup)
    {values : Assignment} (absent : ∀ s ∈ settings, values s = none) (expected : Expected)
    (place : Nat) {items : List Toml.Node} {s : Setting} {value : Value} {node : Toml.Node}
    (next : settings[items.length]? = some s) (default : s.default? = some value)
    (written : s.read node = .ok value) :
    Agree Same (readRow expected place values (settings.map Setting.field) items)
      (readRow expected place values (settings.map Setting.field) (items ++ [node])) := by
  induction settings generalizing values place items with
  | nil => exact nomatch next
  | cons first rest ih =>
      obtain ⟨fresh, distinct⟩ := List.nodup_cons.mp distinct
      cases items with
      | nil =>
          obtain rfl : first = s := Option.some.inj next
          obtain ⟨values', read, same⟩ :=
            Setting.field_default default written (absent first List.mem_cons_self)
          have optional : first.field.required = false := by
            rw [Setting.field, default]
            rfl
          rw [List.nil_append, List.map_cons, readRow, readRow, read, optional]
          exact readRow_agree (fields_same rest) same expected (place + 1) []
      | cons item items =>
          rw [List.cons_append, List.map_cons, readRow, readRow]
          cases read : first.field.read values item with
          | error e => exact .error e
          | ok values' =>
              refine ih distinct (fun t member => ?_) (place + 1) next
              have different : t ≠ first := fun same => fresh (same ▸ member)
              rw [Setting.field_other different read]
              exact absent t (List.mem_cons_of_mem _ member)

private theorem FilePart.LeavesOut.agree {p : FilePart} {shorter longer : Toml.Node}
    (leaves : p.LeavesOut shorter longer) : Agree Same (p.read shorter) (p.read longer) := by
  cases leaves with
  | @table origin before after s value node belongs default written absent =>
      refine readTable_insert (fields_same p.settings) _ before after (s.name, node) ?_
      intro values reached
      rw [readTable_singleton values (Setting.find?_field belongs)]
      have unset : values s = none := by
        refine readTable_untouched (· s) (fun f member other {_ _ _} read => ?_)
          (fun entry member => absent entry (List.mem_append_left _ member)) reached
        obtain ⟨t, _, rfl⟩ := List.mem_map.mp member
        exact Setting.field_other (fun same => other (congrArg Setting.name same.symm)) read
      exact Setting.field_default default written unset
  | @row items s value node next default written =>
      exact readRow_append_default (by cases p <;> decide) (fun _ _ => rfl) _ 0 next default written

private theorem FilePart.part_of_mem {p : FilePart} {s : Setting} (member : s ∈ p.settings) :
    s.part = p := by
  cases p <;> simp only [settings, List.mem_cons, List.not_mem_nil, or_false] at member <;>
    rcases member with rfl | rfl | rfl <;> rfl

/-- A table whose settings all hold their defaults gives nothing but defaults. -/
theorem FilePart.silent_table {p : FilePart} (origin : Toml.Origin) {entries : Toml.Entries}
    (defaults : ∀ entry ∈ entries, ∀ s : Setting, s.part = p → s.name = entry.1 →
      ∃ value, s.default? = some value ∧ s.read entry.2 = .ok value) :
    p.Silent (.table origin entries) := by
  suffices reads : ∀ values : Assignment, (∀ s, values s = none ∨ values s = s.default?) →
      ∃ values', readTable (p.settings.map Setting.field) values entries = .ok values' ∧
        ∀ s, values' s = none ∨ values' s = s.default? from reads _ fun _ => .inl rfl
  induction entries with
  | nil => exact fun values silent => ⟨values, rfl, silent⟩
  | cons entry rest ih =>
      intro values silent
      have later := ih fun other member => defaults other (List.mem_cons_of_mem _ member)
      rw [readTable_cons]
      cases found : (p.settings.map Setting.field).find? (·.name == entry.1) with
      | none => exact later values silent
      | some f =>
          obtain ⟨s, member, rfl⟩ := List.mem_map.mp (List.mem_of_find?_eq_some found)
          have named : s.field.name = entry.1 := by simpa using List.find?_some found
          obtain ⟨value, default, written⟩ :=
            defaults entry List.mem_cons_self s (FilePart.part_of_mem member) named
          dsimp only
          rw [Setting.field]
          dsimp only
          rw [written]
          refine later (Function.update values s (some value)) fun t => ?_
          by_cases here : t = s
          · subst here
            rw [Function.update_self]
            exact .inr default.symm
          · rw [Function.update_of_ne here]
            exact silent t

/-! ## Documents -/

/-- A document that leaves something out, and the same document with defaults written out: the
default of one setting, or a part that gives nothing but defaults, such as one without entries. -/
inductive Omits : Toml.Entries → Toml.Entries → Prop
  | setting (before after : Toml.Entries) {p : FilePart} {node node' : Toml.Node}
      (leaves : p.LeavesOut node node') :
      Omits (before ++ (p.name, node) :: after) (before ++ (p.name, node') :: after)
  | part (before after : Toml.Entries) {p : FilePart} {node : Toml.Node} (silent : p.Silent node)
      (absent : ∀ entry ∈ before ++ after, entry.1 ≠ p.name) :
      Omits (before ++ after) (before ++ (p.name, node) :: after)

private theorem FilePart.find?_field (p : FilePart) :
    (FilePart.all.map FilePart.field).find? (·.name == p.name) = some p.field := by
  cases p <;> rfl

/-- Reading one part leaves the settings of the others alone. -/
theorem FilePart.field_other {s : Setting} {p : FilePart} (different : s.part ≠ p)
    {values next : Assignment} {node : Toml.Node} (read : p.field.read values node = .ok next) :
    next s = values s := by
  rw [field] at read
  dsimp only at read
  cases inner : p.read node with
  | error e =>
      rw [inner] at read
      cases read
  | ok v =>
      rw [inner] at read
      obtain rfl := Except.ok.inj read
      exact if_neg different

/-- **Documents.** What is left out makes no difference to the values that come of a document, nor
to the error if it has the wrong shape. -/
theorem Omits.agree {shorter longer : Toml.Entries} (omits : Omits shorter longer) :
    Agree Same (Assignment.ofEntries shorter) (Assignment.ofEntries longer) := by
  cases omits with
  | @setting before after p node node' leaves =>
      have inner := leaves.agree
      unfold Assignment.ofEntries
      rw [readTable_append, readTable_append]
      cases readTable (FilePart.all.map FilePart.field) (fun _ => none) before with
      | error e => exact .error e
      | ok values =>
          change Agree Same (readTable _ values _) (readTable _ values _)
          rw [readTable_cons, readTable_cons]
          dsimp only
          rw [p.find?_field]
          dsimp only
          refine Agree.bind ?_ fun same => readTable_agree parts_same same after
          rw [FilePart.field]
          dsimp only
          generalize p.read node = result at inner
          generalize p.read node' = result' at inner
          cases inner with
          | error e => exact .error e
          | ok same => exact .ok (.enter p same rfl)
  | @part before after p node silent absent =>
      obtain ⟨inner, read, silent⟩ := silent
      refine readTable_insert parts_same _ before after (p.name, node) ?_
      intro values reached
      rw [readTable_singleton values p.find?_field, FilePart.field]
      dsimp only
      rw [read]
      refine ⟨_, rfl, funext fun s => ?_⟩
      change (values s).or s.default? = (if s.part = p then inner s else values s).or s.default?
      split
      · rename_i inside
        have nothing : values s = none := by
          refine readTable_untouched (· s) (fun f member other {_ _ _} read => ?_)
            (fun entry member => absent entry (List.mem_append_left _ member)) reached
          obtain ⟨q, _, rfl⟩ := List.mem_map.mp member
          refine FilePart.field_other (fun same => other ?_) read
          exact congrArg FilePart.name (same.symm.trans inside)
        rw [nothing]
        obtain unset | default := silent s
        · rw [unset]
        · rw [default, Option.or_self, Option.none_or]
      · rfl

/-- **Settings** come to the same, whatever a document leaves out. -/
theorem complete_of_omits {entries entries' : Toml.Entries}
    (alike : Relation.EqvGen Omits entries entries') :
    (FileSettings.ofEntries entries).map (·.complete) =
      (FileSettings.ofEntries entries').map (·.complete) := by
  induction alike with
  | rel shorter longer omits =>
      have here := FileSettings.ofEntries_given shorter
      have there := FileSettings.ofEntries_given longer
      have agree := omits.agree
      generalize Assignment.ofEntries shorter = values at here agree
      generalize Assignment.ofEntries longer = values' at there agree
      generalize FileSettings.ofEntries shorter = file at here
      generalize FileSettings.ofEntries longer = file' at there
      cases agree with
      | error e =>
          cases here
          cases there
          rfl
      | ok same =>
          cases here with
          | ok gives =>
              cases there with
              | ok gives' =>
                  refine congrArg Except.ok (Settings.value_injective ?_)
                  rw [FileSettings.value_complete, FileSettings.value_complete, funext gives,
                    funext gives']
                  exact same
  | refl => rfl
  | symm _ _ _ ih => exact ih.symm
  | trans _ _ _ _ _ first second => exact first.trans second

/-! ## Loading -/

/-- What the contents of a configuration file hold, if they are a document. -/
def IsDocument (contents : Bytes) (entries : Toml.Entries) : Prop :=
  ∃ text, Utf8.decode? contents = some text ∧ Toml.parse? text = some entries

private theorem IsDocument.load_eq {arguments : List Bytes} {options : Options} {path : Path}
    {contents : Bytes} {entries : Toml.Entries} {contentsOf : Path → Except IoError Bytes}
    (document : IsDocument contents entries) (parsed : Options.parse arguments = .ok options)
    (named : options.config = some path) (found : contentsOf path = .ok contents) :
    Config.load arguments contentsOf =
      ((FileSettings.ofEntries entries).map (·.complete)).mapError (.wrongShape path) >>=
        fun settings => (options.overlay settings).mapError .invalid := by
  obtain ⟨text, decoded, read⟩ := document
  rw [Config.load_of_parsed parsed, named, Option.elim_some, found, FileSettings.ofContents,
    decoded]
  dsimp only
  rw [read]
  dsimp only
  generalize FileSettings.ofEntries entries = result
  cases result <;> rfl

/-- **What a configuration file leaves out** makes no difference. Two documents that come from each
other by writing defaults out and leaving them out, settings and whole parts, load as the same
configuration or fail with the same error, and if nothing remains of one, so does the command line
without a file. For each setting the default is the same one in all three ways of getting it:
without a file, from a missing part, and from a part that leaves the setting out; a setting without
a default is then absent in all three. -/
theorem omissions_change_nothing {arguments : List Bytes} {options : Options} {path : Path}
    {contents contents' : Bytes} {entries entries' : Toml.Entries}
    {contentsOf contentsOf' : Path → Except IoError Bytes}
    (parsed : Options.parse arguments = .ok options) (named : options.config = some path)
    (found : contentsOf path = .ok contents) (document : IsDocument contents entries)
    (found' : contentsOf' path = .ok contents') (document' : IsDocument contents' entries')
    (alike : Relation.EqvGen Omits entries entries') :
    Config.load arguments contentsOf = Config.load arguments contentsOf' ∧
    (entries' = [] → ∀ arguments' contentsOf'',
      Options.parse arguments' = .ok { options with config := none } →
      Config.load arguments contentsOf = Config.load arguments' contentsOf'') ∧
    ∀ s : Setting, Settings.default.value s = s.default? ∧
      ∀ file : FileSettings, file.complete.value s = (file.given s).or s.default? := by
  have same := complete_of_omits alike
  have loaded := document.load_eq parsed named found
  have loaded' := document'.load_eq parsed named found'
  refine ⟨?_, ?_, ?_⟩
  · rw [loaded, loaded', same]
  · rintro rfl arguments' contentsOf'' parsed'
    rw [loaded, same, Config.load, parsed']
    rfl
  · intro s
    exact ⟨Settings.value_default s, fun file => congrFun file.value_complete s⟩

/-- A file with an address, and the same file with a flag and a part written out that change
nothing. -/
theorem flag_and_part_written_out :
    let arguments := ["--config", "c.toml"].map Bytes.ofString
    let text := "[server]\nlisten = \"127.0.0.1:9\"\n"
    let text' := "[server]\nlisten = \"127.0.0.1:9\"\ndaemon = false\n[log]\n"
    let contentsOf : Path → Except IoError Bytes := fun _ => .ok (Bytes.ofString text)
    let contentsOf' : Path → Except IoError Bytes := fun _ => .ok (Bytes.ofString text')
    Config.load arguments contentsOf = Config.load arguments contentsOf' ∧
      Config.load arguments contentsOf =
        .ok { Config.default with listen := SocketAddress.loopback 9 } := by
  intro arguments text text' contentsOf contentsOf'
  have parsed : Options.parse arguments =
      .ok { Options.empty with config := some (Bytes.ofString "c.toml") } := by decide +kernel
  have document : IsDocument (Bytes.ofString text)
      [("server", .table .header [("listen", .string "127.0.0.1:9")])] :=
    ⟨text, by decide +kernel, by cbv⟩
  have document' : IsDocument (Bytes.ofString text')
      [("server", .table .header [("listen", .string "127.0.0.1:9"), ("daemon", .boolean false)]),
        ("log", .table .header [])] :=
    ⟨text', by decide +kernel, by cbv⟩
  have found : contentsOf (Bytes.ofString "c.toml") = .ok (Bytes.ofString text) := rfl
  have found' : contentsOf' (Bytes.ofString "c.toml") = .ok (Bytes.ofString text') := rfl
  have flag : FilePart.server.LeavesOut (.table .header [("listen", .string "127.0.0.1:9")])
      (.table .header [("listen", .string "127.0.0.1:9"), ("daemon", .boolean false)]) := by
    refine .table .header [_] [] (s := .daemon) rfl rfl rfl ?_
    simp [Setting.name]
  have empty : FilePart.log.Silent (.table .header []) := FilePart.silent_table _ (by simp)
  have alike := (Relation.EqvGen.rel _ _ (Omits.setting [] [] flag)).trans _ _ _
    (.rel _ _ (.part [_] [] empty (by simp [FilePart.name])))
  have same := omissions_change_nothing parsed rfl found document found' document' alike
  exact ⟨same.1, by decide +kernel⟩

end PacketLog
