import AirVpn.Model.Firewall
import AirVpn.Lib.Text

/-! # The remotes that a config names

What the lines of an OpenVPN config say when they are read word by word, and for
which layouts of the lines `parse_remotes` reads the same, and nothing behind the
tokens of a line.
-/

namespace AirVpn

/-! ## The lines read word by word -/

/-- The lines of a text. A text ends at a NUL. -/
def textLines (contents : String) : List (List Char) := (cText contents).splitOn '\n'

/-- The words of a line: runs of spaces and tabs lie between them. -/
def lineWords (line : List Char) : List (List Char) := Text.words blanks.contains (gStrstrip line)

def argument (keyword : String) (line : List Char) : Option (List Char) :=
  match lineWords line with
  | first :: arg :: _ => if first = keyword.toList then some arg else none
  | _ => none

/-- The protocol of the remotes that name none. -/
def statedProto (lines : List (List Char)) : List Char :=
  ((lines.filterMap (argument "proto")).getLast?).getD protocolUdp.toList

def statedEntry (proto : List Char) : List (List Char) → Option RemoteEntry
  | [] => none
  | host :: fields =>
      some
        { host := host
          port := fields[0]?.getD defaultPort.toList
          proto := fields[1]?.getD proto }

def statedRemote (proto : List Char) (line : List Char) : Option RemoteEntry :=
  match lineWords line with
  | [] => none
  | first :: fields => if first = "remote".toList then statedEntry proto fields else none

def statedRemotes (contents : String) : List RemoteEntry :=
  let lines := textLines contents
  lines.filterMap (statedRemote (statedProto lines))

/-- Whatever lies behind the tokens, the remotes are the stated ones, in order, and there
is an error exactly when none is stated or the file cannot be read. -/
structure ReadsRemotes (contents : Except GError String) : Prop where
  unreadable : ∀ stray e, contents = .error e → parseRemotes stray contents = .failed e
  none_stated : ∀ stray text, contents = .ok text → statedRemotes text = [] →
    ∃ e, parseRemotes stray contents = .failed e
  stated : ∀ stray text, contents = .ok text → statedRemotes text ≠ [] →
    parseRemotes stray contents = .remotes (statedRemotes text)

/-! ## Layout -/

/-- The word after the keyword and a single space, on a line that begins so. -/
def spacedArgument (keyword : String) (line : List Char) : Option (List Char) :=
  if (keyword ++ " ").toList <+: gStrstrip line then
    (some (((gStrstrip line).drop (keyword ++ " ").toList.length).takeWhile
      (!blanks.contains ·))).filter (· ≠ [])
  else none

def spacedProto (lines : List (List Char)) : List Char :=
  ((lines.filterMap (spacedArgument "proto")).getLast?).getD protocolUdp.toList

/-- What stands between the blanks of a line whose blanks leave every field in its
place. A host has to be followed by something. Where a blank too many or a `proto` line
that is spaced otherwise moves a field, the defaults have to make up for it. -/
def InPlace (spaced stated : List Char) : List (List Char) → Prop
  | [] | [_] => False
  | [host, _] => host ≠ [] ∧ spaced = stated
  | host :: port :: proto :: more =>
      let others := more.filter (!·.isEmpty)
      host ≠ [] ∧
        if port ≠ [] then proto ≠ [] ∨ spaced = others[0]?.getD stated
        else if proto ≠ [] then defaultPort.toList = proto ∧ proto = others[0]?.getD stated
        else defaultPort.toList = others[0]?.getD defaultPort.toList ∧
          spaced = others[1]?.getD stated

/-- Each line that names a remote has one space after the keyword and its fields in
their places. -/
def LaidOut (contents : String) : Prop :=
  let lines := textLines contents
  ∀ line ∈ lines, ∀ fields, lineWords line = "remote".toList :: fields → fields ≠ [] →
    ∃ rest, gStrstrip line = "remote ".toList ++ rest ∧
      InPlace (spacedProto lines) (statedProto lines) (rest.splitOnP blanks.contains)

/-! ## Tokens of a line -/

theorem words_keyword (keyword : String)
    (hkeyword : ∀ c ∈ keyword.toList, blanks.contains c = false) (hne : keyword.toList ≠ [])
    (rest : List Char) :
    Text.words blanks.contains ((keyword ++ " ").toList ++ rest) =
      keyword.toList :: Text.words blanks.contains rest := by
  have hcut : (keyword ++ " ").toList ++ rest = keyword.toList ++ ' ' :: rest := by simp
  rw [hcut, Text.words_append_cons (by decide), Text.words_of_solid hkeyword hne]
  rfl

theorem splitOnP_keyword {keyword : String}
    (hkeyword : ∀ c ∈ keyword.toList, blanks.contains c = false) (rest : List Char) :
    gStrsplitSet ((keyword ++ " ").toList ++ rest) blanks =
      keyword.toList :: rest.splitOnP blanks.contains := by
  have hcut : (keyword ++ " ").toList ++ rest = keyword.toList ++ ' ' :: rest := by simp
  rw [hcut, gStrsplitSet, if_neg (by simp), List.splitOnP_append_cons _ _ (by decide),
    List.splitOnP_eq_singleton hkeyword]
  rfl

theorem directiveTokens_cases (keyword : String)
    (hkeyword : ∀ c ∈ keyword.toList, blanks.contains c = false) (line : List Char) :
    (¬ (keyword ++ " ").toList <+: gStrstrip line ∧ directiveTokens keyword line = none) ∨
      ∃ rest, gStrstrip line = (keyword ++ " ").toList ++ rest ∧
        directiveTokens keyword line =
          some (keyword.toList :: rest.splitOnP blanks.contains) := by
  by_cases h : (keyword ++ " ").toList <+: gStrstrip line
  · obtain ⟨rest, hrest⟩ := h
    refine .inr ⟨rest, hrest.symm, ?_⟩
    have hpre : gStrHasPrefix (gStrstrip line) (keyword ++ " ").toList = true :=
      List.isPrefixOf_iff_prefix.mpr ⟨rest, hrest⟩
    rw [directiveTokens, if_pos hpre, ← hrest, splitOnP_keyword hkeyword]
  · refine .inl ⟨h, ?_⟩
    have hpre : ¬ gStrHasPrefix (gStrstrip line) (keyword ++ " ").toList = true := fun hp =>
      h (List.isPrefixOf_iff_prefix.mp hp)
    rw [directiveTokens, if_neg hpre]

theorem parseDefaultProto_eq (lines : List (List Char)) :
    (parseDefaultProto lines).getD protocolUdp.toList = spacedProto lines := by
  have hfold : parseDefaultProto lines =
      lines.foldl (fun proto line => (spacedArgument "proto" line).or proto) none := by
    refine List.foldl_ext _ _ _ fun proto line _ => ?_
    unfold spacedArgument
    rcases directiveTokens_cases "proto" (Text.forall_of_all (by decide)) line with
      ⟨hpre, htokens⟩ | ⟨rest, hrest, htokens⟩
    · rw [htokens, if_neg hpre, Option.none_or]
    · rw [htokens, hrest, if_pos (List.prefix_append _ _), List.drop_left]
      simp only [nonEmptyToken, List.getElem?_cons_succ, Text.splitOnP_getElem?_zero]
  rw [hfold, Text.foldl_or_eq, Option.or_none]
  rfl

/-! ## One line -/

/-- What the code makes of what stands between the blanks. -/
def placedLine (found : Option (List Char)) (proto : List Char) (pieces : List (List Char)) :
    RemoteLine :=
  match nonEmptyToken pieces 0 with
  | none => .skipped
  | some host =>
      let port := (nonEmptyToken pieces 1).getD defaultPort.toList
      if 2 ≤ pieces.length then .entry ⟨host, port, (nonEmptyToken pieces 2).getD proto⟩
      else .overread ⟨host, port, (found.filter (· ≠ [])).getD proto⟩

def RemoteLine.Reads (stated : Option RemoteEntry) (line : RemoteLine) : Prop :=
  line.isOverread = false ∧ line.remote = stated

namespace RemoteLine

@[simp] theorem reads_skipped {stated : Option RemoteEntry} :
    skipped.Reads stated ↔ stated = none := by simp [Reads, isOverread, remote, eq_comm]

@[simp] theorem reads_entry {entry : RemoteEntry} {stated : Option RemoteEntry} :
    (RemoteLine.entry entry).Reads stated ↔ some entry = stated := by
  simp [Reads, isOverread, remote]

@[simp] theorem not_reads_overread (entry : RemoteEntry) (stated : Option RemoteEntry) :
    ¬ (overread entry).Reads stated := by simp [Reads, isOverread]

end RemoteLine

@[simp] theorem nonEmptyToken_nil (i : Nat) : nonEmptyToken [] i = none := rfl

@[simp] theorem nonEmptyToken_cons_succ (token : List Char) (tokens : List (List Char)) (i : Nat) :
    nonEmptyToken (token :: tokens) (i + 1) = nonEmptyToken tokens i := rfl

@[simp] theorem nonEmptyToken_cons_zero (c : Char) (token : List Char)
    (tokens : List (List Char)) : nonEmptyToken ((c :: token) :: tokens) 0 = some (c :: token) :=
  rfl

@[simp] theorem nonEmptyToken_empty_zero (tokens : List (List Char)) :
    nonEmptyToken ([] :: tokens) 0 = none := rfl

@[simp] theorem placedLine_empty (found : Option (List Char)) (proto : List Char)
    (pieces : List (List Char)) : placedLine found proto ([] :: pieces) = .skipped := rfl

@[simp] theorem placedLine_bare (found : Option (List Char)) (proto : List Char) (c : Char)
    (host : List Char) :
    placedLine found proto [c :: host] =
      .overread ⟨c :: host, defaultPort.toList, (found.filter (· ≠ [])).getD proto⟩ := rfl

@[simp] theorem placedLine_cons (found : Option (List Char)) (proto : List Char) (c : Char)
    (host piece : List Char) (pieces : List (List Char)) :
    placedLine found proto ((c :: host) :: piece :: pieces) =
      .entry ⟨c :: host, (nonEmptyToken (piece :: pieces) 0).getD defaultPort.toList,
        (nonEmptyToken pieces 0).getD proto⟩ := by
  simp [placedLine]

theorem statedEntry_isSome (proto : List Char) {fields : List (List Char)} (h : fields ≠ []) :
    (statedEntry proto fields).isSome = true := by
  cases fields with
  | nil => exact absurd rfl h
  | cons host fields => rfl

/-- The pieces stand for the same entry as the words among them when the fields are
in their places. -/
theorem placedLine_reads_iff {found : Option (List Char)} {spaced stated : List Char}
    {pieces : List (List Char)} (hwords : pieces.filter (!·.isEmpty) ≠ []) :
    (placedLine found spaced pieces).Reads (statedEntry stated (pieces.filter (!·.isEmpty))) ↔
      InPlace spaced stated pieces := by
  match pieces with
  | [] => exact absurd rfl hwords
  | [] :: pieces =>
      have hsome := statedEntry_isSome stated hwords
      have hplace : ¬ InPlace spaced stated ([] :: pieces) := by
        match pieces with
        | [] => exact id
        | [_] => exact fun h => h.1 rfl
        | _ :: _ :: _ => exact fun h => h.1 rfl
      rw [placedLine_empty, RemoteLine.reads_skipped]
      refine ⟨fun h => ?_, fun h => absurd h hplace⟩
      rw [h] at hsome
      exact absurd hsome (by decide)
  | [c :: host] => simp [InPlace]
  | [c :: host, []] => simp [statedEntry, InPlace]
  | [c :: host, d :: port] => simp [statedEntry, InPlace]
  | (c :: host) :: (d :: port) :: (e :: proto) :: more => simp [statedEntry, InPlace]
  | (c :: host) :: (d :: port) :: [] :: more => simp [statedEntry, InPlace]
  | (c :: host) :: [] :: (e :: proto) :: more => simp [statedEntry, InPlace]
  | (c :: host) :: [] :: [] :: more => simp [statedEntry, InPlace]

theorem parseRemoteLine_cases (stray : List Char → Option (List Char))
    (proto : Option (List Char)) (line : List Char) :
    (¬ "remote ".toList <+: gStrstrip line ∧ parseRemoteLine stray proto line = .skipped) ∨
      ∃ rest, gStrstrip line = "remote ".toList ++ rest ∧
        lineWords line = "remote".toList ::
          (rest.splitOnP blanks.contains).filter (!·.isEmpty) ∧
        parseRemoteLine stray proto line =
          placedLine (stray line) (proto.getD protocolUdp.toList)
            (rest.splitOnP blanks.contains) := by
  rcases directiveTokens_cases "remote" (Text.forall_of_all (by decide)) line with
    ⟨hpre, htokens⟩ | ⟨rest, hrest, htokens⟩
  · refine .inl ⟨hpre, ?_⟩
    rw [parseRemoteLine, htokens]
  · refine .inr ⟨rest, hrest, ?_, ?_⟩
    · rw [lineWords, hrest]
      exact words_keyword "remote" (Text.forall_of_all (by decide)) (by decide) rest
    · rw [parseRemoteLine, htokens, placedLine]
      cases hhost : nonEmptyToken (rest.splitOnP blanks.contains) 0 with
      | none => simp only [nonEmptyToken_cons_succ, hhost]
      | some host =>
          simp only [nonEmptyToken_cons_succ, hhost, List.length_cons, Nat.succ_le_succ_iff]

theorem statedRemote_of_words {proto line : List Char} {fields : List (List Char)}
    (h : lineWords line = "remote".toList :: fields) :
    statedRemote proto line = statedEntry proto fields := by
  rw [statedRemote, h]
  exact if_pos rfl

theorem statedRemote_eq_some {proto line : List Char} {entry : RemoteEntry}
    (h : statedRemote proto line = some entry) :
    ∃ fields, lineWords line = "remote".toList :: fields ∧ fields ≠ [] := by
  unfold statedRemote at h
  split at h
  · exact absurd h (by simp)
  · next first fields heq =>
      split at h
      · next hfirst =>
          subst hfirst
          refine ⟨fields, heq, ?_⟩
          rintro rfl
          exact absurd h (by simp [statedEntry])
      · exact absurd h (by simp)

theorem statedRemote_isSome {stray : List Char → Option (List Char)} {proto : Option (List Char)}
    (stated : List Char) {line : List Char}
    (h : (parseRemoteLine stray proto line).remote.isSome = true) :
    (statedRemote stated line).isSome = true := by
  rcases parseRemoteLine_cases stray proto line with ⟨_, hnone⟩ | ⟨rest, _, hwords, hline⟩
  · rw [hnone] at h
    exact absurd h (by decide)
  · rw [statedRemote_of_words hwords]
    apply statedEntry_isSome _
    intro hnil
    rw [hline] at h
    cases hs : rest.splitOnP blanks.contains with
    | nil => exact absurd hs (List.splitOnP_ne_nil _ _)
    | cons piece pieces =>
        rw [hs] at h hnil
        cases piece with
        | nil => exact absurd h (by simp [RemoteLine.remote])
        | cons c piece => simp at hnil

theorem parseRemoteLine_reads_iff (stray : List Char → Option (List Char))
    (proto : Option (List Char)) (stated line : List Char) :
    (parseRemoteLine stray proto line).Reads (statedRemote stated line) ↔
      ∀ fields, lineWords line = "remote".toList :: fields → fields ≠ [] →
        ∃ rest, gStrstrip line = "remote ".toList ++ rest ∧
          InPlace (proto.getD protocolUdp.toList) stated (rest.splitOnP blanks.contains) := by
  rcases parseRemoteLine_cases stray proto line with ⟨hpre, hnone⟩ | ⟨rest, hrest, hwords, hline⟩
  · rw [hnone, RemoteLine.reads_skipped]
    constructor
    · intro h fields hfields hne
      rw [statedRemote_of_words hfields] at h
      have hsome := statedEntry_isSome stated hne
      rw [h] at hsome
      exact absurd hsome (by decide)
    · intro h
      cases hs : statedRemote stated line with
      | none => rfl
      | some entry =>
          obtain ⟨fields, hfields, hne⟩ := statedRemote_eq_some hs
          obtain ⟨rest, hrest, _⟩ := h fields hfields hne
          exact absurd ⟨rest, hrest.symm⟩ hpre
  · rw [hline, statedRemote_of_words hwords]
    constructor
    · intro h fields hfields hne
      rw [hwords] at hfields
      have heq := (List.cons.inj hfields).2
      rw [← heq] at hne
      exact ⟨rest, hrest, (placedLine_reads_iff hne).mp h⟩
    · intro h
      by_cases hne : (rest.splitOnP blanks.contains).filter (!·.isEmpty) = []
      · -- the keyword alone: the code finds no host either
        rw [hne]
        cases hs : rest.splitOnP blanks.contains with
        | nil => exact absurd hs (List.splitOnP_ne_nil _ _)
        | cons piece pieces =>
            rw [hs] at hne
            cases piece with
            | nil => exact RemoteLine.reads_skipped.mpr rfl
            | cons c piece => simp at hne
      · obtain ⟨rest', hrest', hplace⟩ := h _ hwords hne
        rw [List.append_cancel_left (hrest'.symm.trans hrest)] at hplace
        exact (placedLine_reads_iff hne).mpr hplace

/-! ## The whole text -/

theorem gStrsplit_lines {contents : String} (h : cText contents ≠ []) :
    gStrsplit (cText contents) '\n' = textLines contents := by
  rw [gStrsplit, gStrsplitSet, if_neg h, textLines, List.splitOn]
  congr 1
  funext c
  rw [List.contains_cons]
  exact Bool.or_false _

def readLines (stray : List Char → Option (List Char)) (contents : String) : List RemoteLine :=
  (textLines contents).map (parseRemoteLine stray (parseDefaultProto (textLines contents)))

/-- `g_strsplit` finds no line in an empty text, which makes no difference. -/
theorem parseRemotes_ok (stray : List Char → Option (List Char)) (contents : String) :
    parseRemotes stray (.ok contents) = .ofLines (readLines stray contents) := by
  unfold parseRemotes readLines
  by_cases hnil : cText contents = []
  · have hlines : textLines contents = [[]] := by rw [textLines, hnil]; rfl
    simp only [hnil, hlines]
    rfl
  · rw [← gStrsplit_lines hnil]

namespace Parsed

variable {read : List RemoteLine} {entries : List RemoteEntry}

theorem ofLines_nil (h : read.filterMap RemoteLine.remote = []) :
    ∃ e, ofLines read = .failed e := by
  unfold ofLines
  rw [h]
  exact ⟨_, rfl⟩

theorem ofLines_cons (h : read.filterMap RemoteLine.remote ≠ []) :
    ofLines read =
      if read.any RemoteLine.isOverread then .overread (read.filterMap RemoteLine.remote)
      else .remotes (read.filterMap RemoteLine.remote) := by
  unfold ofLines
  split
  · next hnil => exact absurd hnil h
  · rfl

theorem ofLines_failed {e : GError} (h : ofLines read = .failed e) :
    read.filterMap RemoteLine.remote = [] := by
  by_contra hne
  rw [ofLines_cons hne] at h
  split at h <;> cases h

theorem ofLines_remotes (h : ofLines read = .remotes entries) :
    read.any RemoteLine.isOverread = false ∧ read.filterMap RemoteLine.remote = entries := by
  by_cases hnil : read.filterMap RemoteLine.remote = []
  · obtain ⟨e, he⟩ := ofLines_nil hnil
    cases he.symm.trans h
  · rw [ofLines_cons hnil] at h
    split at h
    · cases h
    · next hbounds => exact ⟨Bool.eq_false_iff.mpr hbounds, Parsed.remotes.inj h⟩

theorem ofLines_result (h : (ofLines read).result = .ok entries) :
    read.filterMap RemoteLine.remote = entries := by
  by_cases hnil : read.filterMap RemoteLine.remote = []
  · obtain ⟨e, he⟩ := ofLines_nil hnil
    rw [he] at h
    cases h
  · rw [ofLines_cons hnil] at h
    split at h <;> exact Except.ok.inj h

end Parsed

theorem any_isOverread_of_none {read : List RemoteLine}
    (h : read.filterMap RemoteLine.remote = []) : read.any RemoteLine.isOverread = false := by
  rw [List.any_eq_false]
  intro line hline hover
  have hnone := List.filterMap_eq_nil_iff.mp h line hline
  cases line with
  | overread entry => cases hnone
  | _ => cases hover

theorem laidOut_iff (stray : List Char → Option (List Char)) (contents : String) :
    LaidOut contents ↔
      (readLines stray contents).any RemoteLine.isOverread = false ∧
        (readLines stray contents).filterMap RemoteLine.remote = statedRemotes contents := by
  have hlaid : LaidOut contents ↔ ∀ line ∈ textLines contents,
      (parseRemoteLine stray (parseDefaultProto (textLines contents)) line).Reads
        (statedRemote (statedProto (textLines contents)) line) := by
    simp only [LaidOut, ← parseDefaultProto_eq, parseRemoteLine_reads_iff]
  have hremotes := Text.filterMap_eq_iff
    (f := RemoteLine.remote ∘ parseRemoteLine stray (parseDefaultProto (textLines contents)))
    (g := statedRemote (statedProto (textLines contents)))
    (fun _ h => statedRemote_isSome _ h) (textLines contents)
  have hbounds : (readLines stray contents).any RemoteLine.isOverread = false ↔
      ∀ line ∈ textLines contents,
        (parseRemoteLine stray (parseDefaultProto (textLines contents)) line).isOverread =
          false := by
    simp [readLines, List.any_eq_false]
  rw [hlaid, hbounds, readLines, List.filterMap_map, statedRemotes, hremotes, ← forall₂_and]
  rfl

/-- The remotes of a config are read as they are stated exactly when the file cannot
be read or its lines are laid out well. -/
theorem reads_remotes_iff (contents : Except GError String) :
    ReadsRemotes contents ↔ ∀ text, contents = .ok text → LaidOut text := by
  cases contents with
  | error e =>
      refine ⟨fun _ text h => (by cases h), fun _ => ⟨fun _ e' h => ?_, ?_, ?_⟩⟩
      · cases h
        rfl
      · exact fun _ text h => (by cases h)
      · exact fun _ text h => (by cases h)
  | ok text =>
      constructor
      · rintro ⟨-, hnone, hstated⟩ text' h
        cases h
        have hread := parseRemotes_ok (fun _ => none) text
        rw [laidOut_iff fun _ => none]
        by_cases hnil : statedRemotes text = []
        · obtain ⟨e, he⟩ := hnone (fun _ => none) text rfl hnil
          have hentries := Parsed.ofLines_failed (hread.symm.trans he)
          exact ⟨any_isOverread_of_none hentries, hentries.trans hnil.symm⟩
        · exact Parsed.ofLines_remotes (hread.symm.trans (hstated (fun _ => none) text rfl hnil))
      · intro h
        have hlaid := h text rfl
        refine ⟨fun _ e he => (by cases he), fun stray text' h' hnil => ?_,
          fun stray text' h' hne => ?_⟩
        · cases h'
          obtain ⟨_, hremotes⟩ := (laidOut_iff stray text).mp hlaid
          rw [parseRemotes_ok]
          exact Parsed.ofLines_nil (hremotes.trans hnil)
        · cases h'
          obtain ⟨hbounds, hremotes⟩ := (laidOut_iff stray text).mp hlaid
          rw [parseRemotes_ok, Parsed.ofLines_cons (by rwa [hremotes]), hbounds, hremotes]
          rfl

/-- Two spaces before the port: the port is lost and what follows is the protocol. -/
def sampleConfig : String := "client\nremote 192.0.2.7  1194 udp\n"

/-- A line that ends after the host. -/
def sampleBare : String := "client\nremote 192.0.2.7\n"

theorem blanks_lose_port :
    (parseRemotes (fun _ => none) (.ok sampleConfig) =
        .remotes [⟨"192.0.2.7".toList, "443".toList, "1194".toList⟩] ∧
      ¬ ReadsRemotes (.ok sampleConfig)) ∧
    parseRemotes (fun _ => some "tcp".toList) (.ok sampleBare) =
        .overread [⟨"192.0.2.7".toList, "443".toList, "tcp".toList⟩] ∧
      ¬ ReadsRemotes (.ok sampleBare) := by
  refine ⟨⟨by rfl, fun h => ?_⟩, by rfl, fun h => ?_⟩
  · have hread := h.stated (fun _ => none) sampleConfig rfl (by decide)
    revert hread
    decide
  · have hread := h.stated (fun _ => none) sampleBare rfl (by decide)
    revert hread
    decide

end AirVpn
