import AirVpn.Firewall.Ruleset

/-! # The resolvers that are let through

Which lines of `resolv.conf` name a resolver, and for which spacing of the lines
`append_resolver_rules` lets it through. The splitter takes tabs and repeated
blanks, the test for the keyword takes one space only.
-/

namespace AirVpn

/-! ## What the lines name -/

def isBlank (c : Char) : Bool := blanks.contains c

structure IsToken (text : List Char) : Prop where
  ne_nil : text ≠ []
  solid : ∀ c ∈ text, isBlank c = false

/-- The stripped line consists of the keyword, blanks and an address. -/
def Names (line addr : List Char) : Prop :=
  IsToken addr ∧ gHostnameIsIpAddress addr = true ∧ ∃ run, run ≠ [] ∧
    (∀ c ∈ run, isBlank c = true) ∧ gStrstrip line = "nameserver".toList ++ (run ++ addr)

def rulesFor (addr : List Char) : List Char :=
  acceptRule (addr.contains ':') addr protocolUdp.toList "53".toList ++
    acceptRule (addr.contains ':') addr protocolTcp.toList "53".toList

/-- A line that names a resolver gets its two rules, any other line nothing. -/
structure AppendsDue (line : List Char) : Prop where
  named : ∀ addr, Names line addr → resolverRule line = rulesFor addr
  other : (∀ addr, ¬ Names line addr) → resolverRule line = []

/-- The rules are those of the lines, in file order, and each line gets what it is
due. -/
structure ServesResolvers (net : NetEnv) (contents : String) : Prop where
  in_order : appendResolverRules net = (textLines contents).flatMap resolverRule
  due : ∀ line ∈ textLines contents, AppendsDue line

/-- One space follows the keyword of a line that names a resolver, and no line goes on
after an address that one space follows the keyword. -/
structure PlainlySpaced (line : List Char) : Prop where
  single : ∀ addr, Names line addr → gStrstrip line = "nameserver ".toList ++ addr
  alone : ∀ addr c more, IsToken addr → gHostnameIsIpAddress addr = true → isBlank c = true →
    gStrstrip line ≠ "nameserver ".toList ++ (addr ++ c :: more)

/-! ## What the code reads -/

/-- The code reads the token after the keyword and one space, whatever follows it. -/
theorem nameserver_eq_some_iff {line addr : List Char} :
    nameserver line = some addr ↔
      IsToken addr ∧ gHostnameIsIpAddress addr = true ∧ ∃ rest,
        gStrstrip line = "nameserver ".toList ++ (addr ++ rest) ∧
          ∀ c more, rest = c :: more → isBlank c = true := by
  unfold nameserver
  rcases directiveTokens_cases "nameserver" (Text.forall_of_all (by decide)) line with
    ⟨hpre, htokens⟩ | ⟨text, htext, htokens⟩
  · rw [htokens]
    refine ⟨nofun, ?_⟩
    rintro ⟨-, -, rest, hrest, -⟩
    exact absurd ⟨_, hrest.symm⟩ hpre
  · rw [htokens, htext]
    simp only [nonEmptyToken, List.getElem?_cons_succ, Text.splitOnP_getElem?_zero,
      Option.filter_eq_some_iff, Option.some.injEq, decide_eq_true_eq]
    rw [Text.takeWhile_eq_iff]
    constructor
    · rintro ⟨⟨⟨hsolid, rest, rfl, hrest⟩, hne⟩, hip⟩
      refine ⟨⟨hne, fun c hc => ?_⟩, hip, rest, rfl, fun c more h => ?_⟩
      · simpa [isBlank] using hsolid c hc
      · simpa [isBlank] using hrest c more h
    · rintro ⟨⟨hne, hsolid⟩, hip, rest, hrest, hblank⟩
      refine ⟨⟨⟨fun c hc => ?_, rest, List.append_cancel_left hrest, fun c more h => ?_⟩, hne⟩,
        hip⟩
      · simpa [isBlank] using hsolid c hc
      · simpa [isBlank] using hblank c more h

theorem resolverRule_of_some {line addr : List Char} (h : nameserver line = some addr) :
    resolverRule line = rulesFor addr := by
  rw [resolverRule_eq, h]
  exact List.append_nil _

theorem resolverRule_of_none {line : List Char} (h : nameserver line = none) :
    resolverRule line = [] := by
  rw [resolverRule_eq, h]
  rfl

theorem rulesFor_ne_nil (addr : List Char) : rulesFor addr ≠ [] :=
  List.append_ne_nil_of_right_ne_nil _ (List.append_ne_nil_of_right_ne_nil _ (by decide))

theorem run_unique {run run' addr addr' : List Char} (hrun : ∀ c ∈ run, isBlank c = true)
    (hrun' : ∀ c ∈ run', isBlank c = true) (haddr : ∀ c more, addr = c :: more → isBlank c = false)
    (haddr' : ∀ c more, addr' = c :: more → isBlank c = false)
    (h : run ++ addr = run' ++ addr') : run = run' ∧ addr = addr' := by
  have hcut : (run ++ addr).takeWhile isBlank = run :=
    Text.takeWhile_eq_iff.mpr ⟨hrun, addr, rfl, haddr⟩
  have hcut' : (run ++ addr).takeWhile isBlank = run' :=
    Text.takeWhile_eq_iff.mpr ⟨hrun', addr', h, haddr'⟩
  have heq := hcut.symm.trans hcut'
  subst heq
  exact ⟨rfl, List.append_cancel_left h⟩

theorem eq_of_names {line addr token rest : List Char} (h : Names line addr)
    (htoken : IsToken token) (hline : gStrstrip line = "nameserver ".toList ++ (token ++ rest)) :
    addr = token ++ rest := by
  obtain ⟨haddr, -, run, -, hrun, hnames⟩ := h
  have hspace : "nameserver ".toList ++ (token ++ rest) =
      "nameserver".toList ++ ([' '] ++ (token ++ rest)) := by simp
  rw [hline, hspace] at hnames
  refine ((run_unique ?_ hrun ?_ ?_ (List.append_cancel_left hnames)).2).symm
  · intro c hc
    rw [List.mem_singleton.mp hc]
    decide
  · intro c more hcons
    obtain ⟨d, token, rfl⟩ := List.exists_cons_of_ne_nil htoken.ne_nil
    rw [List.cons_append] at hcons
    exact (List.cons.inj hcons).1 ▸ htoken.solid d List.mem_cons_self
  · rintro c more rfl
    exact haddr.solid c List.mem_cons_self

theorem names_of_single {line addr : List Char} (htoken : IsToken addr)
    (hip : gHostnameIsIpAddress addr = true)
    (hline : gStrstrip line = "nameserver ".toList ++ addr) : Names line addr := by
  refine ⟨htoken, hip, [' '], List.cons_ne_nil _ _, fun c hc => ?_, ?_⟩
  · rw [List.mem_singleton.mp hc]
    decide
  · rw [hline]
    simp

/-! ## Where the two agree -/

theorem appendsDue_iff (line : List Char) : AppendsDue line ↔ PlainlySpaced line := by
  constructor
  · rintro ⟨hnamed, hother⟩
    refine ⟨fun addr hnames => ?_, fun addr c more htoken hip hblank hline => ?_⟩
    · cases hread : nameserver line with
      | none =>
          have hnil := (hnamed addr hnames).symm.trans (resolverRule_of_none hread)
          exact absurd hnil (rulesFor_ne_nil addr)
      | some token =>
          obtain ⟨htoken, -, rest, hline, -⟩ := nameserver_eq_some_iff.mp hread
          rw [hline, eq_of_names hnames htoken hline]
    · have hread : nameserver line = some addr := by
        refine nameserver_eq_some_iff.mpr ⟨htoken, hip, c :: more, hline, fun d rest h => ?_⟩
        exact (List.cons.inj h).1 ▸ hblank
      have hne : resolverRule line ≠ [] := by
        rw [resolverRule_of_some hread]
        exact rulesFor_ne_nil addr
      refine hne (hother fun addr' hnames => ?_)
      have heq := eq_of_names hnames htoken hline
      have hsolid := hnames.1.solid c (by simp [heq])
      exact absurd (hblank.symm.trans hsolid) (by decide)
  · rintro ⟨hsingle, halone⟩
    refine ⟨fun addr hnames => ?_, fun hnone => ?_⟩
    · have hread : nameserver line = some addr := by
        refine nameserver_eq_some_iff.mpr ⟨hnames.1, hnames.2.1, [], ?_, fun c more h => by cases h⟩
        rw [List.append_nil]
        exact hsingle addr hnames
      exact resolverRule_of_some hread
    · cases hread : nameserver line with
      | none => exact resolverRule_of_none hread
      | some addr =>
          obtain ⟨htoken, hip, rest, hline, hblank⟩ := nameserver_eq_some_iff.mp hread
          cases rest with
          | nil =>
              rw [List.append_nil] at hline
              exact absurd (names_of_single htoken hip hline) (hnone addr)
          | cons c more => exact absurd hline (halone addr c more htoken hip (hblank c more rfl))

theorem appendResolverRules_lines {net : NetEnv} {contents : String}
    (h : net.resolvConf = some contents) :
    appendResolverRules net = (textLines contents).flatMap resolverRule := by
  unfold appendResolverRules
  rw [h]
  by_cases hnil : cText contents = []
  · simp only [hnil, textLines]
    rfl
  · simp only [gStrsplit_lines hnil]

/-- The resolvers of a text are let through exactly when its lines are spaced plainly. -/
theorem serves_resolvers_iff {net : NetEnv} {contents : String}
    (h : net.resolvConf = some contents) :
    ServesResolvers net contents ↔ ∀ line ∈ textLines contents, PlainlySpaced line := by
  constructor
  · intro hs line hline
    exact (appendsDue_iff line).mp (hs.due line hline)
  · intro hall
    exact ⟨appendResolverRules_lines h,
      fun line hline => (appendsDue_iff line).mpr (hall line hline)⟩

/-! ## Two files -/

theorem plainlySpaced_of_single {line addr : List Char} (htoken : IsToken addr)
    (hline : gStrstrip line = "nameserver ".toList ++ addr) : PlainlySpaced line := by
  have hline' : gStrstrip line = "nameserver ".toList ++ (addr ++ []) := by
    rw [hline, List.append_nil]
  refine ⟨fun addr' hnames => ?_, fun addr' c more _ _ hblank h => ?_⟩
  · rw [eq_of_names hnames htoken hline', List.append_nil, hline]
  · have heq := List.append_cancel_left (hline.symm.trans h)
    have hsolid := htoken.solid c (by simp [heq])
    exact absurd (hblank.symm.trans hsolid) (by decide)

theorem plainlySpaced_of_other {line : List Char}
    (hline : ¬ "nameserver".toList <+: gStrstrip line) : PlainlySpaced line := by
  refine ⟨fun addr hnames => ?_, fun addr c more _ _ _ h => hline ?_⟩
  · obtain ⟨-, -, run, -, -, hnames⟩ := hnames
    exact absurd ⟨_, hnames.symm⟩ hline
  · rw [h]
    exact (show "nameserver".toList <+: "nameserver ".toList by decide).trans
      (List.prefix_append _ _)

def sampleAddress : List Char := "192.0.2.53".toList

theorem sampleAddress_token : IsToken sampleAddress where
  ne_nil := by decide
  solid := Text.forall_of_all (by decide)

def sampleResolvConf (run : String) : String := "nameserver" ++ run ++ "192.0.2.53\n"

def sampleResolver (run : String) : NetEnv :=
  { sampleNet with resolvConf := some (sampleResolvConf run) }

theorem serves_resolvers_sample : ServesResolvers (sampleResolver " ") (sampleResolvConf " ") := by
  refine (serves_resolvers_iff rfl).mpr fun line hline => ?_
  have hlines : textLines (sampleResolvConf " ") = ["nameserver 192.0.2.53".toList, []] := by
    decide +kernel
  rw [hlines] at hline
  rcases List.mem_cons.mp hline with rfl | hline
  · exact plainlySpaced_of_single sampleAddress_token (by decide +kernel)
  · rw [List.mem_singleton.mp hline]
    exact plainlySpaced_of_other (by decide)

theorem tabbed_resolver_blocked :
    appendResolverRules (sampleResolver "\t") = [] ∧
      ¬ ServesResolvers (sampleResolver "\t") (sampleResolvConf "\t") := by
  have hnil : appendResolverRules (sampleResolver "\t") = [] := by decide +kernel
  refine ⟨hnil, fun h => ?_⟩
  have hline : "nameserver\t192.0.2.53".toList ∈ textLines (sampleResolvConf "\t") := by
    decide +kernel
  have hnames : Names "nameserver\t192.0.2.53".toList sampleAddress := by
    refine ⟨sampleAddress_token, by decide +kernel, ['\t'], List.cons_ne_nil _ _, ?_,
      by decide +kernel⟩
    intro c hc
    rw [List.mem_singleton.mp hc]
    decide
  have hrule := (h.due _ hline).named _ hnames
  have hnone : resolverRule "nameserver\t192.0.2.53".toList = [] := by decide +kernel
  exact rulesFor_ne_nil sampleAddress (hrule.symm.trans hnone)

end AirVpn
