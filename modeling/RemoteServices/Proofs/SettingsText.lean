import RemoteServices.Cli
import RemoteServices.Proofs.TomlLines

/-!
# Settings that are shown can be loaded

The program shows its settings as a document of TOML.  Each setting is an entry of it, and one that
is absent is none.  The document is read back to its entries and these to the settings they were, so
that a file of what was shown stands for the same settings: `Settings.load_shown`.
-/
namespace RemoteServices

open Toml (Key ReadsAs Writes)

/-- An entry for a text that may be absent. -/
def Toml.textEntry (name : String) (value : Option String) : List (Key × Toml) :=
  value.toList.map fun s => (name.toList, .text s.toList)

def HttpSettings.entries (s : HttpSettings) : List (Key × Toml) :=
  [("port".toList, .integer (.ofNat s.port.toNat))] ++
    Toml.textEntry "bind_address" s.bindAddress ++
    Toml.textEntry "advertise_host" s.advertiseHost ++
      [("request_timeout_secs".toList, .integer (.ofNat s.requestTimeout.toNat))]

/-- The entries but for those of the HTTP transport, which have a table of their own. -/
def Settings.entries (s : Settings) : List (Key × Toml) :=
  Toml.textEntry "framework_uuid" s.frameworkUuid ++
    [("import_local_endpoints".toList, .boolean s.importLocalEndpoints)]

def Settings.tree (s : Settings) : Toml :=
  .table .header (s.entries ++ [("http".toList, .table .header s.http.entries)])

theorem Settings.writes_textLine (name : String) (hname : Toml.IsBare name.toList)
    (value : Option String) :
    Writes (textLine name value) (Toml.textEntry name value) := by
  cases value with
  | none => exact Toml.writes_nil
  | some s => exact Toml.writes_entryLine name hname (Toml.readsAs_quote s.toList)

theorem Settings.names_entries (s : Settings) :
    (s.entries.map Prod.fst ++ ["http".toList]).Nodup := by
  obtain ⟨_ | uuid, importLocal, http⟩ := s
  · change ["import_local_endpoints".toList, "http".toList].Nodup
    decide
  · change ["framework_uuid".toList, "import_local_endpoints".toList, "http".toList].Nodup
    decide

theorem HttpSettings.names_entries (s : HttpSettings) : (s.entries.map Prod.fst).Nodup := by
  obtain ⟨port, address, _ | host, timeout⟩ := s
  · change ["port".toList, "bind_address".toList, "request_timeout_secs".toList].Nodup
    decide
  · change ["port".toList, "bind_address".toList, "advertise_host".toList,
      "request_timeout_secs".toList].Nodup
    decide

theorem Toml.asNat?_natural {n bound : Nat} (hn : n ≤ Text.maxInt64) (hbound : n < bound) :
    asNat? bound (.integer (.ofNat n)) = some n := by
  have hvalue : (Int64.ofNat n).toInt = n := Int64.toInt_ofNat_of_lt (Nat.lt_succ_of_le hn)
  have hnonneg : 0 ≤ Int64.ofNat n := by
    rw [Int64.le_iff_toInt_le, hvalue]
    exact Int.natCast_nonneg n
  rw [asNat?, hvalue, Int.toNat_natCast, if_pos ⟨hnonneg, hbound⟩]

section Record

variable {α : Type} {fields : List (Toml.RecordField α)}

theorem Toml.readNamed_append (a : α) (entries entries' : List (Key × Toml)) :
    readNamed fields a (entries ++ entries') = (readNamed fields a entries).bind
      (readNamed fields · entries') := by
  induction entries generalizing a with
  | nil => rfl
  | cons e entries ih =>
    obtain ⟨key, value⟩ := e
    rw [List.cons_append, readNamed, readNamed]
    split
    · rename_i field _
      cases hput : field.put a value with
      | none => rfl
      | some a => exact ih a
    · exact ih a

theorem Toml.readNamed_textEntry (fields : List (Toml.RecordField α)) (name : String)
    (set : Option String → α)
    (hput : ∀ text : String, readNamed fields (set none) [(name.toList, .text text.toList)] =
      some (set text)) (value : Option String) :
    readNamed fields (set none) (textEntry name value) = some (set value) := by
  cases value with
  | none => rfl
  | some text => exact hput text

end Record

theorem HttpSettings.port_le (s : HttpSettings) : s.port.toNat ≤ Text.maxInt64 :=
  Nat.le_trans (Nat.le_of_lt s.port.toNat_lt) (by decide)

theorem HttpSettings.ofToml_entries (s : HttpSettings)
    (h : s.requestTimeout.toNat ≤ Text.maxInt64) :
    ofToml (.table .header s.entries) = some s := by
  have hportValue : Toml.asNat? UInt16.size (.integer (.ofNat s.port.toNat)) = some s.port.toNat :=
    Toml.asNat?_natural s.port_le s.port.toNat_lt
  have htimeoutValue : Toml.asNat? UInt64.size (.integer (.ofNat s.requestTimeout.toNat)) =
      some s.requestTimeout.toNat :=
    Toml.asNat?_natural h s.requestTimeout.toNat_lt
  have hport : Toml.readNamed tomlFields {} [("port".toList, .integer (.ofNat s.port.toNat))] =
      some { port := s.port } := by
    simp [Toml.readNamed, tomlFields, hportValue]
  have haddress : Toml.readNamed tomlFields { port := s.port }
    (Toml.textEntry "bind_address" s.bindAddress) =
      some { port := s.port, bindAddress := s.bindAddress } := by
    simp [Toml.readNamed, tomlFields, Toml.textEntry, Toml.asText?]
  have hhost := Toml.readNamed_textEntry tomlFields "advertise_host"
    (fun host => { port := s.port, bindAddress := s.bindAddress, advertiseHost := host })
    (fun text => by simp [Toml.readNamed, tomlFields, Toml.asText?]) s.advertiseHost
  have htimeout :
      Toml.readNamed tomlFields
      { port := s.port, bindAddress := s.bindAddress, advertiseHost := s.advertiseHost }
      [("request_timeout_secs".toList, .integer (.ofNat s.requestTimeout.toNat))] = some s := by
    simp [Toml.readNamed, tomlFields, htimeoutValue]
  rw [ofToml, Toml.readRecord, entries, Toml.readNamed_append, Toml.readNamed_append,
    Toml.readNamed_append, hport, Option.bind_some, haddress, Option.bind_some, hhost,
    Option.bind_some, htimeout]

namespace Settings

theorem ofToml_tree (s : Settings) (h : s.http.requestTimeout.toNat ≤ Text.maxInt64) :
    ofToml s.tree = some s := by
  have huuid := Toml.readNamed_textEntry tomlFields "framework_uuid"
    (fun uuid => { frameworkUuid := uuid })
    (fun text => by simp [Toml.readNamed, tomlFields, Toml.asText?]) s.frameworkUuid
  have himport : Toml.readNamed tomlFields { frameworkUuid := s.frameworkUuid }
      [("import_local_endpoints".toList, .boolean s.importLocalEndpoints)] =
        some { frameworkUuid := s.frameworkUuid
               importLocalEndpoints := s.importLocalEndpoints } := by
    simp [Toml.readNamed, tomlFields, Toml.asBool?]
  have hhttp : Toml.readNamed tomlFields
      { frameworkUuid := s.frameworkUuid, importLocalEndpoints := s.importLocalEndpoints }
      [("http".toList, .table .header s.http.entries)] = some s := by
    simp [Toml.readNamed, tomlFields, s.http.ofToml_entries h]
  rw [ofToml, tree, Toml.readRecord, entries, Toml.readNamed_append, Toml.readNamed_append, huuid,
    Option.bind_some, himport, Option.bind_some, hhttp]

theorem writes_entries (s : Settings) :
    Writes
      (textLine "framework_uuid" s.frameworkUuid ++
        entryLine "import_local_endpoints" (toString s.importLocalEndpoints).toList)
      s.entries :=
  (writes_textLine _ (by decide) s.frameworkUuid).append
    (Toml.writes_entryLine _ (by decide) (Toml.readsAs_boolean s.importLocalEndpoints))

theorem writes_http_entries (s : HttpSettings) (h : s.requestTimeout.toNat ≤ Text.maxInt64) :
    Writes
      (entryLine "port" (toString s.port.toNat).toList ++
        textLine "bind_address" (some s.bindAddress) ++
        textLine "advertise_host" s.advertiseHost ++
        entryLine "request_timeout_secs" (toString s.requestTimeout.toNat).toList)
      s.entries := by
  have hport := Toml.writes_entryLine "port" (by decide) (Toml.readsAs_natural s.port_le)
  have haddress := writes_textLine "bind_address" (by decide) s.bindAddress
  have hhost := writes_textLine "advertise_host" (by decide) s.advertiseHost
  have htimeout := Toml.writes_entryLine "request_timeout_secs" (by decide) (Toml.readsAs_natural h)
  exact ((hport.append haddress).append hhost).append htimeout

/-- The settings are written as a document that is read as their tree. -/
theorem read_toToml? (s : Settings) (h : s.http.requestTimeout.toNat ≤ Text.maxInt64) :
    ∃ cs, s.toToml? = some (.ofList cs) ∧ Toml.read cs = some s.tree := by
  refine ⟨_, if_pos h, ?_⟩
  have hheader : "\n[http]\n".toList = '\n' :: '[' :: ("http".toList ++ [']', '\n']) := by decide
  have hname : Toml.IsBare "http".toList := by decide
  have hread := Toml.readLines_table s.writes_entries hname (writes_http_entries s.http h)
  rw [Toml.read, hheader, if_neg]
  · simp only [List.append_assoc, List.cons_append, List.nil_append] at hread ⊢
    rw [hread, Option.bind_some]
    exact Toml.build_entries_header s.names_entries s.http.names_entries
  · -- A document starts with the name of a setting, not with a byte order mark.
    cases s.frameworkUuid with
    | none => exact (by decide : some 'i' ≠ some '\uFEFF')
    | some uuid => exact (by decide : some 'f' ≠ some '\uFEFF')

theorem ofBytes_toUTF8 (text : String) : Source.ofBytes text.toUTF8 = .text text := by
  have hvalid : text.toUTF8.IsValidUTF8 := text.isValidUTF8
  rw [Source.ofBytes, String.fromUTF8?, dif_pos hvalid]
  rfl

/-- Settings are shown as a document, and from a file of it the same settings are loaded; that it
can be used is why, not the defaults. -/
theorem load_shown (around : Cli.Surroundings) (s : Settings)
    (h : s.http.requestTimeout.toNat ≤ Text.maxInt64) :
    ∃ text, Cli.execute around s .config = .success text ∧ parseToml text = some s ∧
      load (.ofBytes text.toUTF8) none = s := by
  obtain ⟨cs, htext, hread⟩ := s.read_toToml? h
  have hparse : parseToml (.ofList cs) = some s := by
    rw [parseToml, String.toList_ofList, hread, Option.bind_some, s.ofToml_tree h]
  refine ⟨.ofList cs, ?_, hparse, ?_⟩
  · rw [Cli.execute, htext]
  · rw [load, ofBytes_toUTF8, ofSource, hparse]
    rfl

/-- An empty text is no absent one, and each text is written in a form that it can be read from. -/
theorem load_shown_awkward :
    let s : Settings :=
      ⟨some "", true, ⟨0, "\"'\\\n", some "''' \"\"\"\t\x00", .ofNat Text.maxInt64⟩⟩
    let text := "framework_uuid = \"\"\nimport_local_endpoints = true\n\n[http]\nport = 0\n" ++
      "bind_address = '''\n\"'\\\n'''\nadvertise_host = \"''' \\\"\\\"\\\"\\t\\u0000\"\n" ++
      "request_timeout_secs = 9223372036854775807\n"
    s.http.requestTimeout.toNat ≤ Text.maxInt64 ∧ s.toToml? = some text ∧ parseToml text = some s ∧
      load (.ofBytes text.toUTF8) none = s := by
  intro s text
  have hfits : s.http.requestTimeout.toNat ≤ Text.maxInt64 := by decide
  have htext : s.toToml? = some text := by decide +kernel
  let around : Cli.Surroundings :=
    ⟨fun _ => .absent, none, fun _ => .error .timeout, fun _ _ => none, fun n => toString n⟩
  obtain ⟨shown, hshown, hparse, hload⟩ := load_shown around s hfits
  rw [Cli.execute, htext] at hshown
  obtain rfl : text = shown := congrArg Cli.Outcome.output hshown
  exact ⟨hfits, htext, hparse, hload⟩

end Settings

end RemoteServices
