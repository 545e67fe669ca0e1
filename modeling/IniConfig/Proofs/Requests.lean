import IniConfig.Proofs.Refusals
import IniConfig.Proofs.Snapshots

/-!
# What one request does

A request either puts other content in place of the content (`Step.replaces`), or keeps it but for
what can be read off the request and the workspace in which it is made (`Step.keeps`): an entry that
is added makes the content count and may begin a section (`Step.addedTo?`), and a section that is
looked up is then the one in the snapshot (`Step.lookedUp?`). What holds over a run follows from
these two cases, request by request.
-/

namespace IniConfig

/-- The name, if a section has it. -/
def Document.present? (d : Document) (name : Text) : Option Text :=
  if name ∈ d.names then some name else none

theorem Document.names_append_entry (d : Document) (name : Text) (e : Entry) :
    (d.append name e).names = d.names ++ if name ∈ d.names then [] else [name] := by
  unfold append
  by_cases hn : name ∈ d.names
  · rw [if_pos (contains_iff_mem_names.2 hn), names_modify, if_pos hn, List.append_nil]
  · rw [if_neg (mt contains_iff_mem_names.1 hn), names_append, if_neg hn]
    rfl

namespace CachedDocument

variable {c c' : CachedDocument} {name key : Text} {e : Entry} {n : Nat}

/-! ## The names of a document, and the section in its snapshot -/

theorem name?_fetch (c : CachedDocument) (name : Text) :
    (c.fetch name).2.snapshot.name? = (c.document.present? name).or c.snapshot.name? := by
  unfold fetch Document.present?
  split
  next hnone => rw [if_neg (Document.find?_eq_none_iff.1 hnone), Option.none_or]
  next stored hstored =>
    have hthere : name ∈ c.document.names := by
      rw [← Document.contains_iff_mem_names, Document.contains, hstored]
      rfl
    rw [if_pos hthere]
    split
    next hholds => exact Snapshot.holds_iff.1 hholds
    next => rfl

/-- A snapshot that is taken again is one of the same section. -/
theorem name?_refresh (c : CachedDocument) (name : Text) :
    (c.refresh name).snapshot.name? = c.snapshot.name? := by
  unfold refresh
  split
  next => rfl
  next =>
    split
    next hholds => exact (Snapshot.holds_iff.1 hholds).symm
    next => rfl

theorem name?_cache (h : c.cache name = .ok c') : c'.snapshot.name? = some name := by
  obtain ⟨s, -, rfl⟩ := cache_eq_ok_iff.1 h
  rfl

theorem name?_look_cache (c : CachedDocument) (name : Text) :
    (c.look (.cache name)).2.snapshot.name? =
      (c.document.present? name).or c.snapshot.name? := by
  simp only [look, Document.present?]
  cases h : c.cache name with
  | error fault =>
    have hmissing : name ∉ c.document.names := by
      rw [← Document.contains_iff_mem_names, (cache_eq_error_iff.1 h).1]
      simp
    rw [if_neg hmissing, Option.none_or]
  | ok c' =>
    rw [if_pos (Document.contains_iff_mem_names.1 (contains_of_cache h)), Option.some_or]
    exact name?_cache h

theorem names_fetch (c : CachedDocument) (name : Text) :
    (c.fetch name).2.document.names = c.document.names := by
  rw [document_fetch]

theorem names_cache (h : c.cache name = .ok c') : c'.document.names = c.document.names := by
  rw [document_cache h]

theorem names_look (c : CachedDocument) (l : Look) :
    (c.look l).2.document.names = c.document.names := by
  cases l with
  | observe o => rfl
  | fetch name => exact names_fetch c name
  | cache name =>
    simp only [look]
    cases h : c.cache name with
    | error fault => rfl
    | ok c' => exact names_cache h

theorem names_of_erase (h : c.erase name key = .ok (n, c')) :
    c'.document.names = c.document.names ∧ c'.snapshot.name? = c.snapshot.name? := by
  unfold erase at h
  cases hd : c.document.erase name key with
  | error fault => rw [hd] at h; cases h
  | ok r =>
    obtain ⟨m, d⟩ := r
    obtain ⟨s, -, -, rfl⟩ := Document.erase_eq_ok_iff.1 hd
    rw [hd] at h
    obtain ⟨-, rfl⟩ := Prod.mk.inj (Except.ok.inj h)
    split
    · exact ⟨rfl, rfl⟩
    · rw [document_refresh, Document.names_modify, name?_refresh]
      exact ⟨rfl, rfl⟩

theorem names_of_eraseFirst (h : c.eraseFirst name key = .ok (e, c')) :
    c'.document.names = c.document.names ∧ c'.snapshot.name? = c.snapshot.name? := by
  unfold eraseFirst at h
  cases hd : c.document.eraseFirst name key with
  | error fault => rw [hd] at h; cases h
  | ok r =>
    obtain ⟨first, d⟩ := r
    obtain ⟨s, rest, -, -, rfl⟩ := Document.eraseFirst_eq_ok_iff.1 hd
    rw [hd] at h
    obtain ⟨-, rfl⟩ := Prod.mk.inj (Except.ok.inj h)
    rw [document_refresh, Document.names_modify, name?_refresh]
    exact ⟨rfl, rfl⟩

theorem names_of_apply {change : Edit} {answer : Answer} (hadd : change.isAdd = false)
    (h : change.apply c name = .ok (answer, c')) :
    c'.document.names = c.document.names ∧ c'.snapshot.name? = c.snapshot.name? := by
  cases change with
  | add key payload => cases hadd
  | erase key =>
    simp only [Edit.apply] at h
    cases hc : c.erase name key with
    | error fault => rw [hc] at h; cases h
    | ok r =>
      rw [hc] at h
      obtain ⟨-, rfl⟩ := Prod.mk.inj (Except.ok.inj h)
      exact names_of_erase hc
  | eraseFirst key =>
    simp only [Edit.apply] at h
    cases hc : c.eraseFirst name key with
    | error fault => rw [hc] at h; cases h
    | ok r =>
      rw [hc] at h
      obtain ⟨-, rfl⟩ := Prod.mk.inj (Except.ok.inj h)
      exact names_of_eraseFirst hc

end CachedDocument

namespace Editor

/-- The name of the section that the snapshot is of. -/
def held? (e : Editor) : Option Text := e.content.snapshot.name?

def charset (e : Editor) : Charset := e.options.charset?.getD .utf8

variable {e : Editor} {a : Address} {name : Text} {change : Edit} {fault : Fault}

theorem fetch_of_parsed (h : e.parsed = true) (name : Text) :
    e.fetch name = ((e.content.fetch name).1, { e with content := (e.content.fetch name).2 }) :=
  if_pos h

theorem fetch_of_not_parsed (h : e.parsed = false) (name : Text) : e.fetch name = (none, e) :=
  if_neg (by simp [h])

/-- All entries are read off the section that a question would be about. -/
theorem snd_entries (e : Editor) (a : Address) (q : Query) : (e.entries a).2 = (e.ask a q).2 := by
  cases ha : e.resolve a with
  | none => rw [ask_of_nowhere ha, entries_of_nowhere ha]
  | some name =>
    rw [ask_of_resolve ha, entries_of_resolve ha]
    cases hparsed : e.parsed with
    | false => rw [fetch_of_not_parsed hparsed]; rfl
    | true => rw [if_pos rfl]

theorem document_edit_add (ha : e.resolve a = some name) (key : Text) (payload : Payload) :
    (e.edit a (.add key payload)).2.document = e.document.append name ⟨key, payload.write⟩ := by
  rw [edit_of_applied ha rfl]
  exact CachedDocument.document_append _ _ _

/-- With an entry added, the content counts. -/
theorem parsed_edit_add (ha : e.resolve a = some name) (key : Text) (payload : Payload) :
    (e.edit a (.add key payload)).2.parsed = true := by
  rw [edit_of_applied ha rfl]
  exact Bool.or_true _

theorem enter_of_missing (h : e.content.cache name = .error fault) :
    e.enter name = (.error fault, e) := by
  simp only [enter, h]

theorem enter_of_cached {c : CachedDocument} (h : e.content.cache name = .ok c) :
    e.enter name = (.ok .nothing, { e with content := c, pointer? := some name }) := by
  simp only [enter, h]
  rfl

end Editor

theorem Workspace.editor_writeFile (w : Workspace) (file : Text) :
    (w.writeFile file).2.editor = w.editor := by
  unfold writeFile
  cases w.folder.write file w.editor.renderBytes <;> rfl

/-- What was written to a file is in it. -/
theorem Workspace.read_of_writeFile {w : Workspace} {file : Text} {answer : Answer}
    (h : (w.run (.writeFile file)).1 = .ok answer) :
    (w.run (.writeFile file)).2.folder.read file = .ok w.editor.renderBytes := by
  simp only [run, Workspace.writeFile] at h ⊢
  cases hwrite : w.folder.write file w.editor.renderBytes with
  | error cause => rw [hwrite] at h; cases h
  | ok folder => exact Folder.read_write hwrite

/-- The address of the section that a command asks about. -/
def Command.asked? : Command → Option Address
  | .ask a _ | .entries a => some a
  | _ => none

/-- A command, and the workspace in which it is made. -/
structure Step where
  before : Workspace
  command : Command

namespace Step

variable {s : Step} {t : Text}

def reply (s : Step) : Reply := (s.before.run s.command).1

def after (s : Step) : Workspace := (s.before.run s.command).2

/-- The text that is put in place of the content. There is none if a file cannot be read. -/
def text? (s : Step) : Option Text :=
  match s.command with
  | .parse t => some t
  | .parseBytes bs => some (s.before.editor.charset.decode bs)
  | .parseFile file => (s.before.folder.read file).toOption.map s.before.editor.charset.decode
  | _ => none

/-- Whether other content is put in place of the content: that of a text, or none. -/
def replaces (s : Step) : Bool := s.text?.isSome || s.command = .clear

/-- The section that an entry is added to. -/
def addedTo? (s : Step) : Option Text :=
  match s.command with
  | .edit a (.add _ _) => s.before.editor.resolve a
  | _ => none

/-- The section that an added entry begins, as it is missing. -/
def begun? (s : Step) : Option Text := s.addedTo?.filter (· ∉ s.before.editor.document.names)

/-- The section that is looked up: one that is entered or looked at, or one that is asked about
while the content counts. A name that no section has is not looked up. -/
def lookedUp? (s : Step) : Option Text :=
  match s.command with
  | .enter name => if s.reply.isOk then some name else none
  | .look (.fetch name) | .look (.cache name) => s.before.editor.document.present? name
  | .ask a _ | .entries a =>
    if s.before.editor.parsed then
      (s.before.editor.resolve a).bind s.before.editor.document.present?
    else none
  | _ => none

/-- The content is kept but for an entry that is added, and the snapshot but for a section that is
looked up. -/
structure Keeps (s : Step) : Prop where
  names : s.after.editor.document.names =
    s.before.editor.document.names ++ s.begun?.toList
  readNames : s.after.editor.readNames = s.before.editor.readNames
  parsed : s.after.editor.parsed = (s.before.editor.parsed || s.addedTo?.isSome)
  held : s.after.editor.held? = s.lookedUp?.or s.before.editor.held?

/-! ## Texts -/

theorem run_eq_of_text (h : s.text? = some t) :
    s.before.run s.command = s.before.withEditor (s.before.editor.parse t) := by
  obtain ⟨w, c⟩ := s
  unfold text? at h
  cases c with
  | parse u =>
    obtain rfl : u = t := Option.some.inj h
    rfl
  | parseBytes bs =>
    obtain rfl := Option.some.inj h
    rfl
  | parseFile file =>
    simp only [Workspace.run, Workspace.parseFile]
    cases hread : w.folder.read file with
    | error cause => simp [hread, Except.toOption] at h
    | ok bs =>
      obtain rfl : w.editor.charset.decode bs = t := by
        simpa [hread, Except.toOption] using h
      rfl
  | _ => cases h

theorem reply_of_text (h : s.text? = some t) : s.reply = (s.before.editor.parse t).1 := by
  rw [reply, run_eq_of_text h]
  rfl

theorem after_of_text (h : s.text? = some t) :
    s.after.editor = (s.before.editor.parse t).2 := by
  rw [after, run_eq_of_text h]
  rfl

/-- Content is put in place by a text, or there is none any more. -/
theorem replaces_iff : s.replaces = true ↔ (∃ t, s.text? = some t) ∨ s.command = .clear := by
  simp [replaces, Option.isSome_iff_exists]

theorem after_of_clear (h : s.command = .clear) : s.after.editor = s.before.editor.clear := by
  rw [after, h]
  rfl

/-- A request that is refused changes nothing, unless a text was read. -/
theorem after_of_refused {fault : Fault} (ht : s.text? = none) (h : s.reply = .error fault) :
    s.after = s.before := by
  obtain ⟨w, c⟩ := s
  cases hc : c.isReading with
  | false => exact (Workspace.isAtomic_run hc fault h).2
  | true =>
    cases c with
    | parse t => cases ht
    | parseBytes bs => cases ht
    | parseFile file =>
      cases hread : w.folder.read file with
      | error cause => simp [after, Workspace.run, Workspace.parseFile, hread]
      | ok bs => simp [text?, hread, Except.toOption] at ht
    | _ => cases hc

/-! ## Other requests -/

theorem begun?_of_not_added (h : s.addedTo? = none) : s.begun? = none := by
  rw [begun?, h, Option.filter_none]

theorem keeps_of_content {c : CachedDocument} {p : Option Text}
    (hafter : s.after.editor = { s.before.editor with content := c, pointer? := p })
    (hnames : c.document.names = s.before.editor.document.names) (hadded : s.addedTo? = none)
    (hheld : c.snapshot.name? = s.lookedUp?.or s.before.editor.held?) : s.Keeps := by
  constructor
  case names =>
    rw [hafter, begun?_of_not_added hadded, Option.toList_none, List.append_nil, ← hnames]
    rfl
  case readNames => rw [hafter]
  case parsed => simp [hafter, hadded]
  case held =>
    rw [hafter, ← hheld]
    rfl

/-- The section that is addressed, if there is one, is looked up if the content counts. -/
theorem lookedUp?_of_asked {a : Address} (hc : s.command.asked? = some a) :
    s.lookedUp? = if s.before.editor.parsed then
      (s.before.editor.resolve a).bind s.before.editor.document.present? else none := by
  obtain ⟨w, c⟩ := s
  cases c with
  | ask b q =>
    obtain rfl : b = a := Option.some.inj hc
    rfl
  | entries b =>
    obtain rfl : b = a := Option.some.inj hc
    rfl
  | _ => cases hc

theorem keeps_of_ask {a : Address} {q : Query} (hc : s.command.asked? = some a)
    (hafter : s.after.editor = (s.before.editor.ask a q).2) (hadded : s.addedTo? = none) :
    s.Keeps := by
  have hlooked := lookedUp?_of_asked hc
  cases ha : s.before.editor.resolve a with
  | none =>
    rw [Editor.ask_of_nowhere ha] at hafter
    exact keeps_of_content hafter rfl hadded (by simp [hlooked, ha, Editor.held?])
  | some name =>
    rw [Editor.ask_of_resolve ha] at hafter
    rw [ha] at hlooked
    cases hparsed : s.before.editor.parsed with
    | false =>
      rw [Editor.fetch_of_not_parsed hparsed] at hafter
      exact keeps_of_content hafter rfl hadded (by simp [hlooked, hparsed, Editor.held?])
    | true =>
      rw [Editor.fetch_of_parsed hparsed] at hafter
      refine keeps_of_content hafter (CachedDocument.names_fetch _ name) hadded ?_
      rw [hlooked, if_pos hparsed]
      exact CachedDocument.name?_fetch _ name

theorem keeps_of_enter {name : Text} (hc : s.command = .enter name) : s.Keeps := by
  obtain ⟨w, c⟩ := s
  obtain rfl : c = .enter name := hc
  have hreply : (Step.mk w (.enter name)).reply = (w.editor.enter name).1 := rfl
  have hafter : (Step.mk w (.enter name)).after.editor = (w.editor.enter name).2 := rfl
  cases hcache : w.editor.content.cache name with
  | error fault =>
    rw [Editor.enter_of_missing hcache] at hreply hafter
    refine keeps_of_content hafter rfl rfl ?_
    simp [lookedUp?, hreply, Except.isOk, Except.toBool, Editor.held?]
  | ok c' =>
    rw [Editor.enter_of_cached hcache] at hreply hafter
    refine keeps_of_content hafter (CachedDocument.names_cache hcache) rfl ?_
    simp [lookedUp?, hreply, Except.isOk, Except.toBool, CachedDocument.name?_cache hcache]

theorem keeps_of_look {l : Look} (hc : s.command = .look l) : s.Keeps := by
  obtain ⟨w, c⟩ := s
  obtain rfl : c = .look l := hc
  refine keeps_of_content rfl (CachedDocument.names_look _ l) rfl ?_
  cases l with
  | observe o => rfl
  | fetch name => exact CachedDocument.name?_fetch _ name
  | cache name => exact CachedDocument.name?_look_cache _ name

/-- An entry is added at the end of a section that is there, or begins one. -/
theorem keeps_of_add {a : Address} {key : Text} {payload : Payload}
    (hc : s.command = .edit a (.add key payload)) : s.Keeps := by
  obtain ⟨w, c⟩ := s
  obtain rfl : c = .edit a (.add key payload) := hc
  have hadded : (Step.mk w (.edit a (.add key payload))).addedTo? = w.editor.resolve a := rfl
  have hafter : (Step.mk w (.edit a (.add key payload))).after.editor =
      (w.editor.edit a (.add key payload)).2 := rfl
  cases ha : w.editor.resolve a with
  | none =>
    rw [Editor.edit_of_nowhere ha] at hafter
    exact keeps_of_content hafter rfl (hadded.trans ha) rfl
  | some name =>
    rw [ha] at hadded
    rw [Editor.edit_of_applied ha rfl] at hafter
    constructor
    case names =>
      simp only [hafter, begun?, hadded, Editor.document, CachedDocument.document_append,
        Document.names_append_entry, Option.filter_some]
      by_cases hn : name ∈ w.editor.content.document.names <;> simp [hn]
    case readNames => rw [hafter]
    case parsed => simp [hafter, hadded, Edit.isAdd]
    case held =>
      rw [hafter]
      exact CachedDocument.name?_refresh _ name

/-- What is removed leaves its section there. -/
theorem keeps_of_remove {a : Address} {change : Edit} (hadd : change.isAdd = false)
    (hc : s.command = .edit a change) : s.Keeps := by
  obtain ⟨w, c⟩ := s
  obtain rfl : c = .edit a change := hc
  have hadded : (Step.mk w (.edit a change)).addedTo? = none := by
    cases change with
    | add key payload => cases hadd
    | _ => rfl
  have hafter : (Step.mk w (.edit a change)).after.editor = (w.editor.edit a change).2 := rfl
  cases ha : w.editor.resolve a with
  | none =>
    rw [Editor.edit_of_nowhere ha] at hafter
    exact keeps_of_content hafter rfl hadded rfl
  | some name =>
    cases happly : change.apply w.editor.content name with
    | error fault =>
      rw [Editor.edit_of_refused ha happly] at hafter
      exact keeps_of_content hafter rfl hadded rfl
    | ok r =>
      obtain ⟨answer, c'⟩ := r
      rw [Editor.edit_of_applied ha happly, hadd, Bool.or_false] at hafter
      obtain ⟨hnames, hheld⟩ := CachedDocument.names_of_apply hadd happly
      exact keeps_of_content hafter hnames hadded hheld

theorem keeps_of_edit {a : Address} {change : Edit} (hc : s.command = .edit a change) :
    s.Keeps := by
  cases change with
  | add key payload => exact keeps_of_add hc
  | erase key => exact keeps_of_remove rfl hc
  | eraseFirst key => exact keeps_of_remove rfl hc

/-- **A request that does not put other content in place keeps it**, but for an entry that is added
and a section that is looked up. -/
theorem keeps (h : s.replaces = false) : s.Keeps := by
  obtain ⟨w, c⟩ := s
  cases c with
  | parse t => cases h
  | parseBytes bs => cases h
  | clear => cases h
  | parseFile file =>
    -- the file cannot be read, as its text would replace the content
    have hafter : (Step.mk w (.parseFile file)).after = w := by
      cases hread : w.folder.read file with
      | error cause => simp [after, Workspace.run, Workspace.parseFile, hread]
      | ok bs => simp [replaces, text?, hread, Except.toOption] at h
    exact keeps_of_content (by rw [hafter]) rfl rfl rfl
  | writeFile file => exact keeps_of_content (w.editor_writeFile file) rfl rfl rfl
  | enter name => exact keeps_of_enter rfl
  | select name => exact keeps_of_content rfl rfl rfl rfl
  | inspect i => exact keeps_of_content rfl rfl rfl rfl
  | look l => exact keeps_of_look rfl
  | ask a q => exact keeps_of_ask rfl rfl rfl
  | entries a => exact keeps_of_ask rfl (w.editor.snd_entries a .size) rfl
  | edit a change => exact keeps_of_edit rfl

end Step

end IniConfig
