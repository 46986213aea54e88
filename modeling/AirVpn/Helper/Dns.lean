import AirVpn.Helper.Routes
import AirVpn.Lib.Text

/-! # The name servers and domains of the helper

What the options that the server pushes say, kind by kind, and that the lists of the
helper say the same, in the same order, in both dictionaries.
-/

namespace AirVpn.Helper

/-! ## What the options say -/

/-- The options of one kind, without what tells the kind. -/
def ofKind (kind : String) (texts : List (List Char)) : List (List Char) :=
  texts.filterMap (afterPrefix ("dhcp-option " ++ kind ++ " "))

def tokens (str : List Char) : List (List Char) := Text.words (· = ' ') str

def only6 (lib : Libs) (token : List Char) : Option In6Addr :=
  if (lib.inetPton4 token).isSome then none else lib.inetPton6 token

/-- What the options say, in order. -/
def listsOf (lib : Libs) (texts : List (List Char)) : ForeignOptions where
  dns4 := ((ofKind "DNS" texts).flatMap tokens).filterMap lib.inetPton4
  dns6 := ((ofKind "DNS" texts).flatMap tokens).filterMap (only6 lib)
  nbns := ((ofKind "WINS" texts).flatMap tokens).filterMap lib.inetPton4
  domains := (ofKind "DOMAIN" texts).filter isDomainValid
  domainSearch := (ofKind "DOMAIN-SEARCH" texts).filter isDomainValid

/-- The lists are those of the options, with the search domains after the domains. -/
def ListsExact (lib : Libs) (texts : List (List Char)) (lists : ForeignOptions) : Prop :=
  lists = { listsOf lib texts with
    domains := (listsOf lib texts).domains ++ (listsOf lib texts).domainSearch }

/-- A dictionary has the key of a list with this list, if it is not empty. -/
def Carries {α : Type} (dict : Dict) (key : String) (values : List α)
    (variant : List α → GVariant) : Prop :=
  ∀ value, (key, value) ∈ dict ↔ values ≠ [] ∧ value = variant values

/-! ## Prefixes -/

theorem afterPrefix_eq_some {part : String} {tmp rest : List Char} :
    afterPrefix part tmp = some rest ↔ tmp = part.toList ++ rest := by
  unfold afterPrefix gStrHasPrefix
  split
  · next h =>
      obtain ⟨more, rfl⟩ := List.isPrefixOf_iff_prefix.mp h
      rw [List.drop_left, Option.some.injEq, List.append_cancel_left_eq]
  · next h =>
      refine iff_of_false nofun ?_
      rintro rfl
      exact h (List.isPrefixOf_iff_prefix.mpr (List.prefix_append _ _))

theorem afterPrefix_append (first second : String) (tmp : List Char) :
    afterPrefix (first ++ second) tmp = (afterPrefix first tmp).bind (afterPrefix second) := by
  apply Option.ext
  intro rest
  rw [afterPrefix_eq_some, Option.bind_eq_some_iff]
  simp only [afterPrefix_eq_some, String.toList_append, List.append_assoc]
  constructor
  · rintro rfl
    exact ⟨_, rfl, rfl⟩
  · rintro ⟨_, rfl, rfl⟩
    rfl

theorem afterPrefix_eq_none {part other : String} (h : ¬ part.toList <+: other.toList)
    (h' : ¬ other.toList <+: part.toList) {tmp rest : List Char}
    (hpart : afterPrefix part tmp = some rest) : afterPrefix other tmp = none := by
  refine Option.eq_none_iff_forall_ne_some.mpr fun rest' hother => ?_
  rw [afterPrefix_eq_some] at hpart hother
  have hprefix : part.toList <+: tmp := ⟨rest, hpart.symm⟩
  have hprefix' : other.toList <+: tmp := ⟨rest', hother.symm⟩
  rcases List.prefix_or_prefix_of_prefix hprefix hprefix' with hp | hp
  · exact h hp
  · exact h' hp

/-! ## Lists of addresses -/

theorem addr4_token (lib : Libs) (token : List Char) :
    addr4ToGvariant lib (some token) = if token = [] then none else lib.inetPton4 token := by
  unfold addr4ToGvariant nonEmptyText
  by_cases h : token = [] <;> simp [Option.filter, h]

theorem addr6_token (lib : Libs) (token : List Char) :
    addr6ToGvariant lib (some token) = if token = [] then none else lib.inetPton6 token := by
  unfold addr6ToGvariant nonEmptyText
  by_cases h : token = [] <;> simp [Option.filter, h]

theorem gStrsplit_tokens (str : List Char) :
    (gStrsplit str ' ').filter (!·.isEmpty) = tokens str := by
  have hblank : (fun c => [' '].contains c) = fun c : Char => decide (c = ' ') := by
    funext c
    simp
  unfold gStrsplit gStrsplitSet tokens Text.words
  split
  · next hnil =>
      rw [hnil]
      rfl
  · exact congrArg (fun p => (str.splitOnP p).filter (!·.isEmpty)) hblank

theorem addAddr_cons (lib : Libs) (array6 : Bool) (lists : List Nat × List In6Addr) (c : Char)
    (token : List Char) :
    addAddr lib array6 lists (c :: token) =
      (lists.1 ++ (lib.inetPton4 (c :: token)).toList,
        lists.2 ++ (if array6 then only6 lib (c :: token) else none).toList) := by
  unfold addAddr only6
  rw [addr4_token, addr6_token, if_neg (List.cons_ne_nil _ _), if_neg (List.cons_ne_nil _ _)]
  cases lib.inetPton4 (c :: token) with
  | some addr => cases array6 <;> simp
  | none =>
      cases array6 with
      | false => simp
      | true => cases lib.inetPton6 (c :: token) <;> simp

theorem foldl_addAddr (lib : Libs) (array6 : Bool) (pieces : List (List Char))
    (lists : List Nat × List In6Addr) :
    pieces.foldl (addAddr lib array6) lists =
      (lists.1 ++ (pieces.filter (!·.isEmpty)).filterMap lib.inetPton4,
        lists.2 ++ if array6 then (pieces.filter (!·.isEmpty)).filterMap (only6 lib) else []) := by
  induction pieces generalizing lists with
  | nil => simp
  | cons piece pieces ih =>
      rw [List.foldl_cons, ih]
      cases piece with
      | nil =>
          have hskip : addAddr lib array6 lists [] = lists := by
            unfold addAddr
            rw [addr4_token, addr6_token]
            cases array6 <;> rfl
          rw [hskip, List.filter_cons_of_neg (by decide)]
      | cons c piece =>
          rw [List.filter_cons_of_pos (by rfl), addAddr_cons, List.filterMap_cons,
            List.filterMap_cons]
          cases lib.inetPton4 (c :: piece) <;> cases only6 lib (c :: piece) <;> cases array6 <;>
            simp

theorem parseAddrList_eq (lib : Libs) (array6 : Bool) (lists : List Nat × List In6Addr)
    (str : List Char) :
    parseAddrList lib array6 lists str =
      (lists.1 ++ (tokens str).filterMap lib.inetPton4,
        lists.2 ++ if array6 then (tokens str).filterMap (only6 lib) else []) := by
  rw [parseAddrList, foldl_addAddr, gStrsplit_tokens]

/-! ## One option -/

/-- What one option adds to the lists. -/
def contribution (lib : Libs) (tmp : List Char) : ForeignOptions where
  dns4 := ((ofKind "DNS" [tmp]).flatMap tokens).filterMap lib.inetPton4
  dns6 := ((ofKind "DNS" [tmp]).flatMap tokens).filterMap (only6 lib)
  nbns := ((ofKind "WINS" [tmp]).flatMap tokens).filterMap lib.inetPton4
  domains := (ofKind "DOMAIN" [tmp]).filter isDomainValid
  domainSearch := (ofKind "DOMAIN-SEARCH" [tmp]).filter isDomainValid

def ForeignOptions.append (lists more : ForeignOptions) : ForeignOptions where
  dns4 := lists.dns4 ++ more.dns4
  dns6 := lists.dns6 ++ more.dns6
  nbns := lists.nbns ++ more.nbns
  domains := lists.domains ++ more.domains
  domainSearch := lists.domainSearch ++ more.domainSearch

theorem ofKind_singleton (kind : String) (tmp : List Char) :
    ofKind kind [tmp] =
      ((afterPrefix "dhcp-option " tmp).bind (afterPrefix (kind ++ " "))).toList := by
  have hsplit : "dhcp-option " ++ kind ++ " " = "dhcp-option " ++ (kind ++ " ") :=
    String.append_assoc
  unfold ofKind
  rw [List.filterMap_cons, hsplit, afterPrefix_append]
  cases (afterPrefix "dhcp-option " tmp).bind (afterPrefix (kind ++ " ")) <;> rfl

/-- The four kinds tell themselves apart by their first characters. -/
def kindPrefixes : List String := ["DNS ", "WINS ", "DOMAIN ", "DOMAIN-SEARCH "]

theorem kindPrefixes_apart : ∀ part ∈ kindPrefixes, ∀ other ∈ kindPrefixes, part ≠ other →
    ¬ part.toList <+: other.toList := by decide

theorem afterPrefix_other {part : String} (other : String) (hpart : part ∈ kindPrefixes)
    (hother : other ∈ kindPrefixes) (hne : part ≠ other) {tmp rest : List Char}
    (h : afterPrefix part tmp = some rest) : afterPrefix other tmp = none :=
  afterPrefix_eq_none (kindPrefixes_apart part hpart other hother hne)
    (kindPrefixes_apart other hother part hpart hne.symm) h

theorem foreignOption_eq (lib : Libs) (lists : ForeignOptions) (i : Nat) (tmp : List Char) :
    foreignOption lib lists i tmp = lists.append (contribution lib tmp) := by
  have hkinds : "DNS" ++ " " = "DNS " ∧ "WINS" ++ " " = "WINS " ∧ "DOMAIN" ++ " " = "DOMAIN " ∧
      "DOMAIN-SEARCH" ++ " " = "DOMAIN-SEARCH " := ⟨rfl, rfl, rfl, rfl⟩
  obtain ⟨hdns, hwins, hdomain, hsearch⟩ := hkinds
  unfold foreignOption contribution ForeignOptions.append
  simp only [ofKind_singleton, hdns, hwins, hdomain, hsearch]
  cases afterPrefix "dhcp-option " tmp with
  | none => simp
  | some text =>
      simp only [Option.bind_some]
      cases h : afterPrefix "DNS " text with
      | some str =>
          rw [afterPrefix_other "WINS " (by decide) (by decide) (by decide) h,
            afterPrefix_other "DOMAIN " (by decide) (by decide) (by decide) h,
            afterPrefix_other "DOMAIN-SEARCH " (by decide) (by decide) (by decide) h]
          simp [parseAddrList_eq]
      | none =>
          cases h : afterPrefix "WINS " text with
          | some str =>
              rw [afterPrefix_other "DOMAIN " (by decide) (by decide) (by decide) h,
                afterPrefix_other "DOMAIN-SEARCH " (by decide) (by decide) (by decide) h]
              simp [parseAddrList_eq]
          | none =>
              cases h : afterPrefix "DOMAIN " text with
              | some domain =>
                  rw [afterPrefix_other "DOMAIN-SEARCH " (by decide) (by decide)
                    (by decide) h]
                  cases hvalid : isDomainValid domain <;> simp [Option.filter, hvalid]
              | none =>
                  cases afterPrefix "DOMAIN-SEARCH " text with
                  | none => simp [Option.filter]
                  | some domain =>
                      cases hvalid : isDomainValid domain <;> simp [Option.filter, hvalid]

/-! ## All options -/

theorem ofKind_append (kind : String) (texts more : List (List Char)) :
    ofKind kind (texts ++ more) = ofKind kind texts ++ ofKind kind more := List.filterMap_append

theorem listsOf_append (lib : Libs) (texts : List (List Char)) (tmp : List Char) :
    listsOf lib (texts ++ [tmp]) = (listsOf lib texts).append (contribution lib tmp) := by
  simp only [listsOf, ForeignOptions.append, contribution, ofKind_append, List.flatMap_append,
    List.filterMap_append, List.filter_append]

theorem foldl_foreignOption (lib : Libs) (before : List (List Char))
    (entries : List (Nat × List Char)) :
    entries.foldl (fun s entry => foreignOption lib s entry.1 entry.2) (listsOf lib before) =
      listsOf lib (before ++ entries.map Prod.snd) := by
  induction entries generalizing before with
  | nil => simp
  | cons entry entries ih =>
      rw [List.foldl_cons, foreignOption_eq, ← listsOf_append, ih, List.map_cons,
        List.append_assoc, List.singleton_append]

theorem listsOf_nil (lib : Libs) : listsOf lib [] = initForeignOptions := rfl

/-- The texts of the options before the first missing or empty one. -/
def optionTexts (environ : Environ) (stop : Nat) : List (List Char) :=
  (List.range' 1 (stop - 1)).filterMap fun i =>
    nonEmptyText (numbered environ "foreign_option_" i)

theorem foreignOptions_exact (lib : Libs) (environ : Environ) {stop : Nat}
    (hends : Scan.Ends (fun i => nonEmptyText (numbered environ "foreign_option_" i)) 1 stop)
    (hfuel : stop < 1 + (environ.length + 1)) :
    (foreignOptionScan lib environ).isSome = true ∧
      ListsExact lib (optionTexts environ stop) (foreignOptions lib environ) := by
  have hscan := Scan.scan_eq (foreignOption lib) hends hfuel initForeignOptions
  have htexts : (((List.range' 1 (stop - 1)).filterMap fun i =>
      (nonEmptyText (numbered environ "foreign_option_" i)).map (i, ·)).map Prod.snd) =
      optionTexts environ stop := by
    rw [List.map_filterMap]
    unfold optionTexts
    congr 1
    funext i
    cases nonEmptyText (numbered environ "foreign_option_" i) <;> rfl
  rw [← listsOf_nil lib, foldl_foreignOption, List.nil_append, htexts] at hscan
  unfold foreignOptions foreignOptionScan
  rw [← listsOf_nil lib, hscan]
  exact ⟨rfl, rfl⟩

/-! ## The dictionaries -/

theorem carries_iff {α : Type} {values : List α} {variant : List α → GVariant} {value : GVariant} :
    some value = (nonEmptyList values).map variant ↔ values ≠ [] ∧ value = variant values := by
  unfold nonEmptyList
  cases values <;> simp [eq_comm]

theorem ip4Builder_carries (lib : Libs) (environ : Environ) (argv : List (List Char))
    (tapdev : Bool) :
    Carries (ip4Builder lib environ argv tapdev) "dns" (foreignOptions lib environ).dns4 .uint32s ∧
      Carries (ip4Builder lib environ argv tapdev) "nbns" (foreignOptions lib environ).nbns
        .uint32s ∧
      Carries (ip4Builder lib environ argv tapdev) "domains" (foreignOptions lib environ).domains
        .strv := by
  refine ⟨fun value => ?_, fun value => ?_, fun value => ?_⟩
  all_goals
    unfold ip4Builder
    dsimp only
    rw [Entries.mem_present, ← carries_iff]
    simp

theorem ip6Builder_carries (lib : Libs) (environ : Environ) (argv : List (List Char)) :
    Carries (ip6Builder lib environ argv) "dns"
        (if (ip6Address lib environ).isSome then (foreignOptions lib environ).dns6 else [])
        .bytesList ∧
      Carries (ip6Builder lib environ argv) "domains"
        (if (ip6Address lib environ).isSome then (foreignOptions lib environ).domains else [])
        .strv := by
  refine ⟨fun value => ?_, fun value => ?_⟩
  all_goals
    unfold ip6Builder
    dsimp only
    rw [Entries.mem_present, ← carries_iff]
    cases (ip6Address lib environ).isSome <;> simp [nonEmptyList]

/-- The lists are those of the options up to the first missing or empty one, and the
dictionaries have the keys of the lists that are not empty. -/
theorem helper_dns_exact (lib : Libs) (environ : Environ) :
    (foreignOptionScan lib environ).isSome = true ∧
      (∃ stop, Scan.Ends (fun i => nonEmptyText (numbered environ "foreign_option_" i)) 1 stop ∧
        ListsExact lib (optionTexts environ stop) (foreignOptions lib environ)) ∧
      ∀ argv tapdev,
        (Carries (ip4Builder lib environ argv tapdev) "dns" (foreignOptions lib environ).dns4
            .uint32s ∧
          Carries (ip4Builder lib environ argv tapdev) "nbns" (foreignOptions lib environ).nbns
            .uint32s ∧
          Carries (ip4Builder lib environ argv tapdev) "domains"
            (foreignOptions lib environ).domains .strv) ∧
        Carries (ip6Builder lib environ argv) "dns"
            (if (ip6Address lib environ).isSome then (foreignOptions lib environ).dns6 else [])
            .bytesList ∧
          Carries (ip6Builder lib environ argv) "domains"
            (if (ip6Address lib environ).isSome then (foreignOptions lib environ).domains else [])
            .strv := by
  obtain ⟨stop, hends, hfuel⟩ := exists_numbered_ends environ "foreign_option_"
  obtain ⟨hscan, hexact⟩ := foreignOptions_exact lib environ hends hfuel
  exact ⟨hscan, ⟨stop, hends, hexact⟩, fun argv tapdev =>
    ⟨ip4Builder_carries lib environ argv tapdev, ip6Builder_carries lib environ argv⟩⟩

example :
    (foreignOptions sampleLibs
      [("foreign_option_1", "dhcp-option DOMAIN-SEARCH b.example".toList),
        ("foreign_option_2", "dhcp-option DOMAIN a.example".toList)]).domains =
      ["a.example".toList, "b.example".toList] := by decide +kernel

end AirVpn.Helper
