import Dosm.Docs.Frontmatter
import Dosm.Org.Routes
import Dosm.Python.PlainScalars

namespace Dosm.Org

open Python Docs.Vault

/-! The cards of departments, as the documents they are read as.

A card's metadata is put together from raw lines. It is read back as far as the name of
the department stands for itself in YAML; the body begins after the first rule, which a
name can hold as well.
-/

/-- The text of a metadata value; other values are none. -/
def textAt (key : String) (entries : Entries) : Option String :=
  match entries.lookup (.str key) with
  | some (.scalar (.str text)) => some text
  | _ => none

/-- The YAML library as the vault uses it. -/
def vaultYaml (reader : YamlReader) (dump : (title folder author updatedAt : String) → String) : Docs.Vault.Yaml where
  load block :=
    match reader.load block with
    | some (.mapping entries) => some { title := textAt "title" entries, folder := textAt "folder" entries }
    | _ => none
  dump := dump

/-- The title, the folder and every line of a member come back. -/
structure CardParses (yaml : Docs.Vault.Yaml) (dept : Department) (members : List DepartmentMember) : Prop where
  title : (parseFrontmatter yaml (docText dept members)).1.title = some dept.name
  folder : (parseFrontmatter yaml (docText dept members)).1.folder = some "_unfiled"
  lines : ∀ member ∈ members,
    (memberLine member).toList <:+: (parseFrontmatter yaml (docText dept members)).2.toList

section Cards

variable {dept : Department} {members : List DepartmentMember} {reader : YamlReader}
  {dump : (title folder author updatedAt : String) → String} {content rest : List Char}

def cardBody (dept : Department) (members : List DepartmentMember) : List String :=
  ["", "# " ++ dept.name, ""] ++ ((truthy dept.description).map fun text => [text, ""]).getD [] ++
    ((truthy dept.managerName).map fun name => [managerLine dept name, ""]).getD [] ++
    (if members = [] then [] else ["## Members", ""] ++ members.map memberLine ++ [""])

def metaLines (name : String) : List Char := ("\ntitle: " ++ name ++ "\nfolder: _unfiled").toList

theorem docText_chars : (docText dept members).toList = "---".toList ++
    (metaLines dept.name ++ "\n---".toList ++ '\n' :: ("\n".intercalate (cardBody dept members)).toList) := by
  have lines : docText dept members = "\n".intercalate
      ("---" :: ("title: " ++ dept.name) :: "folder: _unfiled" :: "---" :: cardBody dept members) := by
    rw [docText, cardBody]
    simp only [List.cons_append, List.nil_append]
  have body : cardBody dept members ≠ [] := by simp [cardBody]
  rw [lines, String.intercalate_cons_cons, String.intercalate_cons_cons, String.intercalate_cons_cons,
    String.intercalate_cons_of_ne_nil body, metaLines]
  simp [String.toList_append]

theorem line_before_rule {line tail before after : List Char} (single : '\n' ∉ line) (plain : ¬ "---".toList <+: line)
    (same : '\n' :: line ++ '\n' :: tail = before ++ "\n---".toList ++ after) :
    ∃ skipped, before = '\n' :: line ++ skipped ∧ '\n' :: tail = skipped ++ "\n---".toList ++ after := by
  rw [List.append_assoc] at same
  rcases List.append_eq_append_iff.mp same with ⟨skipped, beforeSplit, rest⟩ | ⟨inside, lineSplit, rest⟩
  · exact ⟨skipped, beforeSplit, by rw [List.append_assoc]; exact rest⟩
  · cases before with
    | nil =>
        exfalso
        have whole : inside = '\n' :: line := lineSplit.symm
        rw [whole] at rest
        have ruled : "---".toList ++ after = line ++ '\n' :: tail := (List.cons.inj rest).2
        match line, ruled with
        | [], ruled => simp at ruled
        | [first], ruled => simp at ruled
        | [first, second], ruled => simp at ruled
        | first :: second :: third :: line, ruled =>
            have aligned : "---".toList ++ after = [first, second, third] ++ (line ++ '\n' :: tail) := ruled
            exact plain ⟨line, by rw [(List.append_inj aligned rfl).1]; rfl⟩
    | cons char before =>
        cases inside with
        | nil =>
            rw [List.append_nil] at lineSplit
            exact ⟨[], by rw [List.append_nil, lineSplit], by simpa using rest.symm⟩
        | cons first inside =>
            exfalso
            have isNewline : '\n' = first := Option.some.inj (congrArg List.head? rest)
            have member : '\n' ∈ line := by
              have tailSplit : line = before ++ first :: inside := (List.cons.inj lineSplit).2
              rw [tailSplit, ← isNewline]
              simp
            exact single member

theorem metaLines_eq {name : String} : metaLines name =
    '\n' :: ("title: " ++ name).toList ++ ('\n' :: "folder: _unfiled".toList) := by
  simp [metaLines, String.toList_append]

theorem folder_before_rule {tail before after : List Char}
    (same : '\n' :: "folder: _unfiled".toList ++ '\n' :: tail = before ++ "\n---".toList ++ after) :
    ('\n' :: "folder: _unfiled".toList).length ≤ before.length := by
  have plain : ¬ "---".toList <+: "folder: _unfiled".toList := by decide
  obtain ⟨skipped, split, _⟩ := line_before_rule (by decide) plain same
  rw [split, List.length_append]
  exact Nat.le_add_right _ _

theorem docText_ruled (single : '\n' ∉ dept.name.toList) :
    Ruled (docText dept members) (metaLines dept.name)
      ('\n' :: ("\n".intercalate (cardBody dept members)).toList) := by
  refine ⟨docText_chars, fun before after same => ?_⟩
  have titleSingle : '\n' ∉ ("title: " ++ dept.name).toList := by
    rw [String.toList_append, List.mem_append]
    rintro (start | name)
    · exact absurd start (by decide)
    · exact single name
  have titlePlain : ¬ "---".toList <+: ("title: " ++ dept.name).toList := by
    rw [String.toList_append]
    rintro ⟨rest, split⟩
    simp at split
  generalize '\n' :: ("\n".intercalate (cardBody dept members)).toList = body at same
  have whole : '\n' :: ("title: " ++ dept.name).toList ++
      '\n' :: ("folder: _unfiled".toList ++ '\n' :: ("---".toList ++ body)) = before ++ "\n---".toList ++ after := by
    rw [← same, metaLines_eq]
    simp
  obtain ⟨skipped, split, tail⟩ := line_before_rule titleSingle titlePlain whole
  have later := folder_before_rule tail
  rw [metaLines_eq, split, List.length_append, List.length_append]
  omega

theorem earlier_rule (ruled : Ruled (docText dept members) content rest)
    (earlier : content.length < (metaLines dept.name).length) : content.length ≤ dept.name.length + 4 := by
  have same : '\n' :: ("title: " ++ dept.name).toList ++ ('\n' :: "folder: _unfiled".toList ++
      ("\n---".toList ++ '\n' :: ("\n".intercalate (cardBody dept members)).toList)) =
        content ++ ("\n---".toList ++ rest) := by
    have cut := List.append_cancel_left (docText_chars.symm.trans ruled.1)
    rw [metaLines_eq] at cut
    simpa only [List.append_assoc] using cut
  have size : (metaLines dept.name).length =
      ('\n' :: ("title: " ++ dept.name).toList).length + ('\n' :: "folder: _unfiled".toList).length := by
    rw [metaLines_eq, List.length_append]
  have title : ('\n' :: ("title: " ++ dept.name).toList).length = dept.name.length + 8 := by
    rw [String.toList_append, List.length_cons, List.length_append, String.length_toList, String.length_toList]
    have prefixed : "title: ".length = 7 := rfl
    omega
  rcases List.append_eq_append_iff.mp same with ⟨inside, contentSplit, tail⟩ | ⟨inside, titleSplit, tail⟩
  · have later := @folder_before_rule _ inside rest (by rw [List.append_assoc]; exact tail)
    rw [contentSplit, List.length_append] at earlier
    omega
  · have lengths := congrArg List.length titleSplit
    rw [List.length_append] at lengths
    match inside, tail with
    | [], tail => simp at tail
    | [first], tail => simp at tail
    | [first, second], tail => simp at tail
    | [first, second, third], tail => simp at tail
    | first :: second :: third :: fourth :: inside, _ =>
        simp only [List.length_cons] at lengths title
        omega

theorem exists_ruled : ∃ content rest, Ruled (docText dept members) content rest := by
  have starts : startsWith (docText dept members) "---" = true := startsWith_append docText_chars
  cases found : find "\n---" (docText dept members) 3 with
  | some stop =>
      obtain ⟨content, rest, ruled, _⟩ := find_ruled starts found
      exact ⟨content, rest, ruled⟩
  | none =>
      have body : (docText dept members).toList.drop 3 =
          metaLines dept.name ++ "\n---".toList ++ '\n' :: ("\n".intercalate (cardBody dept members)).toList := by
        rw [docText_chars]
        rfl
      rw [find, body] at found
      exact absurd rfl (findIn_none found)

def cardEntries (name : String) : List (String × String) := [("title", name), ("folder", "_unfiled")]

theorem strip_metaLines {name : String} : strip (String.ofList (metaLines name)) = blockText (cardEntries name) := by
  have block : blockText (cardEntries name) = "title: " ++ name ++ "\nfolder: _unfiled" := by
    simp only [blockText, cardEntries, List.map_cons, List.map_nil, String.intercalate_cons_cons,
      String.intercalate_singleton, String.append_assoc]
    rfl
  have first : metaLines name = '\n' :: 't' :: ("itle: " ++ name ++ "\nfolder: _unfiled").toList := by
    simp [metaLines, String.toList_append]
  have last : 't' :: ("itle: " ++ name ++ "\nfolder: _unfiled").toList =
      ('t' :: ("itle: " ++ name ++ "\nfolder: _unfile").toList) ++ ['d'] := by
    simp [String.toList_append]
  have newline : isSpace '\n' = true := by decide
  have letter : ¬ isSpace 't' = true := by decide
  have ending : ¬ isSpace 'd' = true := by decide
  rw [strip, String.toList_ofList, first, List.dropWhile_cons_of_pos newline, List.dropWhile_cons_of_neg letter, last,
    List.rdropWhile_concat_neg _ _ _ ending, ← last, block, ← String.toList_inj, String.toList_ofList]
  simp [String.toList_append]

theorem textAt_some {entries : Entries} {key text : String} (found : textAt key entries = some text) :
    (Yaml.mapping entries).get [.str key] = some (Yaml.str text) := by
  unfold textAt at found
  split at found
  next text looked =>
    cases found
    simp [Yaml.entries, looked, Yaml.str]
  next => cases found

theorem infix_intercalate {separator line : List Char} {lines : List (List Char)} (member : line ∈ lines) :
    line <:+: separator.intercalate lines := by
  induction lines with
  | nil => cases member
  | cons first lines ih =>
      cases lines with
      | nil =>
          obtain rfl := List.mem_singleton.mp member
          exact ⟨[], [], by simp⟩
      | cons second lines =>
          rw [List.intercalate_cons_cons]
          rcases List.mem_cons.mp member with rfl | later
          · exact ⟨[], separator ++ separator.intercalate (second :: lines), by simp⟩
          · exact (ih later).trans (List.suffix_append _ _).isInfix

theorem body_lines : ('\n' :: ("\n".intercalate (cardBody dept members)).toList).dropWhile (· = '\n') =
    ['\n'].intercalate ((cardBody dept members).tail.map String.toList) := by
  have split : cardBody dept members = "" :: ("# " ++ dept.name) :: (cardBody dept members).tail.tail := rfl
  have chars : ("\n".intercalate (cardBody dept members)).toList =
      '\n' :: ['\n'].intercalate ((cardBody dept members).tail.map String.toList) := by
    rw [String.toList_intercalate, split]
    rfl
  have heading : ∃ rest, ['\n'].intercalate ((cardBody dept members).tail.map String.toList) = '#' :: rest := by
    rw [split, List.tail_cons, List.map_cons]
    have title : ("# " ++ dept.name).toList = '#' :: (' ' :: dept.name.toList) := by simp [String.toList_append]
    cases (cardBody dept members).tail.tail.map String.toList with
    | nil => exact ⟨_, by rw [List.intercalate_singleton, title]⟩
    | cons line lines =>
        rw [List.intercalate_cons_cons, title]
        exact ⟨_, rfl⟩
  obtain ⟨rest, first⟩ := heading
  rw [chars, List.dropWhile_cons_of_pos (by decide), List.dropWhile_cons_of_pos (by decide), first,
    List.dropWhile_cons_of_neg (by decide)]

theorem memberLine_body {member : DepartmentMember} (listed : member ∈ members) :
    memberLine member ∈ (cardBody dept members).tail := by
  have some : ¬ members = [] := List.ne_nil_of_mem listed
  have line : memberLine member ∈ members.map memberLine := List.mem_map_of_mem listed
  rw [cardBody, if_neg some]
  simp [line]

theorem words_string : reader.isString "title" = true ∧ reader.isString "folder" = true ∧
    reader.isString "_unfiled" = true :=
  ⟨reader.words _ (by decide) (by decide), reader.words _ (by decide) (by decide), reader.words _ (by decide) (by decide)⟩

theorem plain_of_title (parsed : (parseFrontmatter (vaultYaml reader dump) (docText dept members)).1.title = some dept.name) :
    isPlain dept.name = true ∧ reader.isString dept.name = true := by
  obtain ⟨title, folder, unfiled⟩ := @words_string reader
  obtain ⟨content, rest, ruled⟩ := @exists_ruled dept members
  have longest : content.length ≤ (metaLines dept.name).length :=
    ruled.2 _ _ (List.append_cancel_left (ruled.1.symm.trans docText_chars))
  rw [parseFrontmatter_ruled ruled] at parsed
  cases loaded : reader.load (strip (String.ofList content)) with
  | none => simp [vaultYaml, loaded] at parsed
  | some node =>
      cases node with
      | scalar _ => simp [vaultYaml, loaded] at parsed
      | sequence _ => simp [vaultYaml, loaded] at parsed
      | mapping entries =>
          have found : textAt "title" entries = some dept.name := by simpa [vaultYaml, loaded] using parsed
          have read := textAt_some found
          rcases Nat.lt_or_eq_of_le longest with earlier | whole
          · -- The block ends inside the name, which is too long to be in it.
            exfalso
            have short := earlier_rule ruled earlier
            have source := reader.written "title" _ _ _ (by decide) (by decide) loaded read
            have stripped := @strip_length_le (String.ofList content)
            have key : "title".length = 5 := rfl
            rw [String.length_ofList] at stripped
            omega
          · have same : content = metaLines dept.name := by
              have cut := List.append_cancel_left (ruled.1.symm.trans docText_chars)
              rw [List.append_assoc, List.append_assoc] at cut
              exact (List.append_inj cut whole).1
            rw [same, strip_metaLines] at loaded
            by_contra other
            refine reader.other "title" dept.name [("folder", "_unfiled")] (by decide) title other ?_ _ loaded read
            intro entry listed
            rw [List.mem_singleton.mp listed]
            exact ⟨by decide, by decide, by decide, unfiled⟩

theorem cardEntries_texts (plain : isPlain dept.name = true ∧ reader.isString dept.name = true) :
    ∀ entry ∈ cardEntries dept.name, isWord entry.1 = true ∧ entry.1.length ≤ 1024 ∧
      reader.isString entry.1 = true ∧ isPlain entry.2 = true ∧ reader.isString entry.2 = true := by
  obtain ⟨title, folder, unfiled⟩ := @words_string reader
  intro entry listed
  simp only [cardEntries, List.mem_cons, List.not_mem_nil, or_false] at listed
  rcases listed with rfl | rfl
  · have word : isWord "title" = true := by decide
    have short : "title".length ≤ 1024 := by decide
    exact ⟨word, short, title, plain.1, plain.2⟩
  · exact ⟨by decide, by decide, folder, by decide, unfiled⟩

/-- A card is read back exactly when the name of its department is a plain text of YAML. -/
theorem card_parses_iff : CardParses (vaultYaml reader dump) dept members ↔
    isPlain dept.name = true ∧ reader.isString dept.name = true := by
  constructor
  · intro parses
    exact plain_of_title parses.title
  · intro plain
    have ruled := @docText_ruled dept members (isPlain_newline plain.1)
    have keys : ((cardEntries dept.name).map Prod.fst).Nodup := by simp [cardEntries]
    have loaded : reader.load (strip (String.ofList (metaLines dept.name))) =
        some (.mapping ((cardEntries dept.name).map textEntry)) := by
      rw [strip_metaLines]
      exact reader.plain _ (List.cons_ne_nil _ _) keys (cardEntries_texts plain)
    have parsed := @parseFrontmatter_ruled (vaultYaml reader dump) _ _ _ ruled
    constructor
    · rw [parsed]
      simp [vaultYaml, loaded, cardEntries, textEntry, textAt, Entries.lookup, Yaml.str]
    · rw [parsed]
      simp [vaultYaml, loaded, cardEntries, textEntry, textAt, Entries.lookup, Yaml.str]
    · intro member listed
      rw [parsed, String.toList_ofList, body_lines]
      exact infix_intercalate (List.mem_map_of_mem (memberLine_body listed))

end Cards

/-- A name with a colon: the card has no title any more. -/
theorem colon_name_lost : ¬ CardParses (vaultYaml lineReader fun _ _ _ _ => "")
    { id := 1, tenantId := 1, name := "Ops: EU", slug := "ops-eu", description := none, adGroupName := "ops",
      adGroupDn := none, managerInput := "", managerDn := none, managerName := none, managerEmail := none,
      managerTitle := none, parentId := none, lastSyncError := none, syncStatus := .ok } [] := by
  intro parses
  exact absurd (plain_of_title parses.title).1 (by decide)

end Dosm.Org
