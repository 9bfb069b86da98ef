import ArchLint.Proofs.Cache

/-!
Which text is seen in which violation. Six checks read the texts of their files one by one and
report on a file what stands in its own text (`Scene.scans_checkRule`); the granularity check counts
lines over all files of its scope; the other checks read nothing and report the same of a scene in
which no file can be read (`Bucket.check_blind`). So another text in one file, or none, is seen in
what these six report on that file and in granularities, and nowhere else.
-/

namespace ArchLint

/-- Does the check look at the text of one file at a time? -/
def Bucket.isTextual : Bucket → Bool
  | fileSize | documentation | complexity | keywords | content | barrel => true
  | _ => false

/-- Everything a run reports, each violation with the bucket whose check reports it. -/
def RuleSet.attributed (rules : RuleSet) (scene : Scene) : List (Bucket × Violation) :=
  Bucket.reported.flatMap fun b => (b.check (rules.bucket b) scene).map fun v => (b, v)

theorem map_snd_attributed (rules : RuleSet) (scene : Scene) :
    (rules.attributed scene).map Prod.snd = rules.run scene := by
  rw [run_eq_flatMap_bucket, RuleSet.attributed, List.map_flatMap]
  simp only [List.map_map, Function.comp_def, List.map_id']

/-- The scene in which no file can be read. What is there is there still. -/
def Scene.blind (s : Scene) : Scene :=
  { symbols := s.symbols, files := ⟨fun _ => .error .notFound, s.files.isThere⟩ }

namespace Scene

theorem blind_congr {s t : Scene} (hs : s.symbols = t.symbols)
    (hi : ∀ q, s.isThere q = t.isThere q) : s.blind = t.blind := by
  have places : s.files.isThere = t.files.isThere := funext hi
  rw [blind, blind, hs, places]

theorem mem_scan {s : Scene} {files : List Symbol} {find : Symbol → String → List Violation}
    {v : Violation} :
    v ∈ s.scan files find ↔ ∃ x ∈ files, ∃ text, s.text? x.path = some text ∧ v ∈ find x text := by
  rw [scan, List.mem_flatMap]
  refine exists_congr fun x => and_congr_right fun _ => ?_
  cases s.text? x.path <;> simp

theorem scan_cons (s : Scene) (x : Symbol) (files : List Symbol)
    (find : Symbol → String → List Violation) :
    s.scan (x :: files) find = s.scan [x] find ++ s.scan files find := by
  rw [scan, scan, scan, List.flatMap_cons, List.flatMap_singleton]

end Scene

/-! ### Checks of single texts -/

/-- What is found in a text is reported on its file. -/
def AboutOwnFile (find : Symbol → String → List Violation) : Prop :=
  ∀ x text, ∀ v ∈ find x text, v.file = x.path

theorem file_of_mem_tooMany {h : RuleHead} {x : Symbol} {count limit : Nat} {what : String} :
    ∀ v ∈ Check.tooMany h x count limit what, v.file = x.path := by
  unfold Check.tooMany
  split
  · exact List.forall_mem_singleton.mpr rfl
  · exact List.forall_mem_nil _

/-- A report on scenes with the symbols of `s` goes through the same files, whatever stands in them,
and finds in each what stands there. -/
def Scene.Scans (s : Scene) (report : Scene → List Violation) : Prop :=
  ∃ files find, AboutOwnFile find ∧
    ∀ t : Scene, t.symbols = s.symbols → report t = t.scan files find

namespace Scene.Scans

variable {s : Scene} {find : Symbol → String → List Violation}

theorem nil : s.Scans fun _ => [] :=
  ⟨[], fun _ _ => [], fun _ _ => List.forall_mem_nil _, fun _ _ => rfl⟩

theorem ofScope (hf : AboutOwnFile find) (scope : RoleSelector) :
    s.Scans fun t => t.scan (t.filesOf scope) find :=
  ⟨s.filesOf scope, find, hf, fun _ ht => by simp only [filesOf, ht]⟩

theorem ofPattern (hf : AboutOwnFile find) (pattern : Pattern) :
    s.Scans fun t => t.scan (Check.filesMatching t pattern) find :=
  ⟨Check.filesMatching s pattern, find, hf, fun _ ht => by
    simp only [Check.filesMatching, ht]⟩

end Scene.Scans

theorem Scene.scans_documentation (s : Scene) (r : Typed DocumentationRule) :
    s.Scans (Check.documentation r) := by
  unfold Check.documentation
  by_cases hd : (!r.body.demandsComment) = true
  · simp only [if_pos hd]
    exact Scans.nil
  · simp only [if_neg hd]
    refine Scans.ofScope (fun x text => ?_) r.body.scope
    split
    · exact List.forall_mem_nil _
    · exact List.forall_mem_singleton.mpr rfl

theorem Scene.scans_barrel (s : Scene) (r : Typed BarrelRule) : s.Scans (Check.barrel r) := by
  unfold Check.barrel
  cases Pattern.ofText? r.body.filePattern with
  | none => exact Scans.nil
  | some pattern =>
    refine Scans.ofPattern (fun x text => ?_) pattern
    split
    · exact List.forall_mem_nil _
    · exact List.forall_mem_singleton.mpr rfl

/-- The checks of single texts are scans. -/
theorem Scene.scans_checkRule (s : Scene) {b : Bucket} (hb : b.isTextual = true)
    (r : Typed b.Body) : s.Scans (b.checkRule r) := by
  cases b with
  | documentation => exact s.scans_documentation r
  | barrel => exact s.scans_barrel r
  | fileSize =>
    refine Scans.ofScope (fun x text => ?_) r.body.scope
    simp only
    split
    · exact List.forall_mem_nil _
    · exact List.forall_mem_singleton.mpr rfl
  | complexity =>
    refine Scans.ofScope (fun x text => ?_) r.body.scope
    exact List.forall_mem_append.mpr ⟨file_of_mem_tooMany, file_of_mem_tooMany⟩
  | keywords =>
    refine Scans.ofScope (fun x text => ?_) r.body.scope
    split
    · exact List.forall_mem_nil _
    · exact List.forall_mem_singleton.mpr rfl
  | content =>
    refine Scans.ofScope (fun x text => ?_) r.body.scope
    split
    · exact List.forall_mem_nil _
    · exact List.forall_mem_singleton.mpr rfl
  | _ => exact absurd hb (by decide)

theorem Bucket.ne_forbidden_of_isTextual {b : Bucket} (hb : b.isTextual = true) :
    b ≠ .forbidden := by
  rintro rfl
  exact absurd hb (by decide)

/-! ### Checks that read nothing -/

/-- The other checks do not ask for texts, but for one that counts lines. -/
theorem Bucket.check_blind {b : Bucket} (hb : b.isTextual = false) (hg : b ≠ .granularity)
    (rules : List (Typed b.Body)) (s : Scene) : b.check rules s = b.check rules s.blind := by
  cases b with
  | fileSize | documentation | complexity | keywords | content | barrel => exact nomatch hb
  | granularity => exact absurd rfl hg
  | _ => rfl

/-! ### Another text in one file -/

/-- Everything but granularities and what the checks of single texts report on one file. -/
def isBeyond (path : String) (e : Bucket × Violation) : Bool :=
  e.1 ≠ .granularity && !(e.1.isTextual && e.2.file = path)

section

variable {s t : Scene} {path : String}

/-- Without what is reported on one file, a scan is that of the other files. -/
theorem filter_scan {find : Symbol → String → List Violation} (hf : AboutOwnFile find) :
    ∀ files : List Symbol, (s.scan files find).filter (fun v => v.file ≠ path) =
      s.scan (files.filter fun x => x.path ≠ path) find
  | [] => rfl
  | x :: files => by
    have here : ∀ v ∈ s.scan [x] find, v.file = x.path := by
      intro v hv
      obtain ⟨y, hy, text, -, hv⟩ := Scene.mem_scan.mp hv
      rw [List.mem_singleton.mp hy] at hv
      exact hf x text v hv
    rw [Scene.scan_cons s x files, List.filter_append, filter_scan hf files]
    by_cases hx : x.path = path
    · rw [List.filter_eq_nil_iff.mpr fun v hv => by simpa [hx] using here v hv,
        List.filter_cons_of_neg (by simpa using hx), List.nil_append]
    · rw [List.filter_eq_self.mpr fun v hv => by simpa [here v hv] using hx,
        List.filter_cons_of_pos (by simpa using hx), Scene.scan_cons s x (files.filter _)]

theorem scan_off_path (ht : ∀ q ≠ path, s.text? q = t.text? q) (files : List Symbol)
    {find : Symbol → String → List Violation} (hf : AboutOwnFile find) :
    (s.scan files find).filter (fun v => v.file ≠ path) =
      (t.scan files find).filter fun v => v.file ≠ path := by
  rw [filter_scan hf, filter_scan hf]
  refine List.flatMap_congr fun x hx => ?_
  have other : x.path ≠ path := of_decide_eq_true (List.mem_filter.mp hx).2
  rw [ht _ other]

variable {b : Bucket}

theorem check_off_path (hs : s.symbols = t.symbols) (ht : ∀ q ≠ path, s.text? q = t.text? q)
    (hb : b.isTextual = true) (rules : List (Typed b.Body)) :
    (b.check rules s).filter (fun v => v.file ≠ path) =
      (b.check rules t).filter fun v => v.file ≠ path := by
  rw [Bucket.check_eq_flatMap (Bucket.ne_forbidden_of_isTextual hb),
    Bucket.check_eq_flatMap (Bucket.ne_forbidden_of_isTextual hb), List.filter_flatMap,
    List.filter_flatMap]
  refine List.flatMap_congr fun r _ => ?_
  obtain ⟨files, find, about, scans⟩ := t.scans_checkRule hb r
  rw [scans s hs, scans t rfl]
  exact scan_off_path ht files about

/-- A file that cannot be read has no findings in its text. -/
theorem file_ne_of_mem_check (hp : s.text? path = none) (hb : b.isTextual = true)
    {rules : List (Typed b.Body)} {v : Violation} (hv : v ∈ b.check rules s) : v.file ≠ path := by
  rw [Bucket.check_eq_flatMap (Bucket.ne_forbidden_of_isTextual hb)] at hv
  obtain ⟨r, -, hv⟩ := List.mem_flatMap.mp hv
  obtain ⟨files, find, about, scans⟩ := s.scans_checkRule hb r
  rw [scans s rfl] at hv
  obtain ⟨x, -, text, readable, hv⟩ := Scene.mem_scan.mp hv
  rintro rfl
  rw [about x text v hv, readable] at hp
  exact nomatch hp

end

theorem mem_attributed {rules : RuleSet} {s : Scene} {e : Bucket × Violation}
    (he : e ∈ rules.attributed s) : e.2 ∈ e.1.check (rules.bucket e.1) s := by
  obtain ⟨b, -, he⟩ := List.mem_flatMap.mp he
  obtain ⟨v, hv, rfl⟩ := List.mem_map.mp he
  exact hv

/-- What a choice by bucket and file leaves of two runs is settled bucket by bucket. -/
theorem filter_attributed_congr {rules : RuleSet} {s t : Scene} {p q : Bucket × Violation → Bool}
    (h : ∀ b : Bucket, (b.check (rules.bucket b) s).filter (fun v => p (b, v)) =
      (b.check (rules.bucket b) t).filter fun v => q (b, v)) :
    (rules.attributed s).filter p = (rules.attributed t).filter q := by
  rw [RuleSet.attributed, RuleSet.attributed, List.filter_flatMap, List.filter_flatMap]
  refine List.flatMap_congr fun b _ => ?_
  rw [List.filter_map, List.filter_map]
  exact congrArg _ (h b)

theorem attributed_beyond {s t : Scene} {path : String} (hs : s.symbols = t.symbols)
    (hi : ∀ q, s.isThere q = t.isThere q) (ht : ∀ q ≠ path, s.text? q = t.text? q)
    (rules : RuleSet) :
    (rules.attributed s).filter (isBeyond path) = (rules.attributed t).filter (isBeyond path) := by
  refine filter_attributed_congr fun b => ?_
  rcases eq_or_ne b .granularity with rfl | hg
  · simp [isBeyond]
  cases hb : b.isTextual with
  | false =>
    rw [Bucket.check_blind hb hg _ s, Bucket.check_blind hb hg _ t, Scene.blind_congr hs hi]
  | true => simpa [isBeyond, hg, hb] using check_off_path hs ht hb (rules.bucket b)

/-- The text of a file shows in granularities and in what the checks of single texts report on that
file; without it these checks report on all other files what they would report, and nothing on
that one. -/
theorem text_shows_on_its_file_only (rules : RuleSet) (s t : Scene) (path : String)
    (hs : s.symbols = t.symbols) (hi : ∀ q, s.isThere q = t.isThere q)
    (ht : ∀ q ≠ path, s.text? q = t.text? q) :
    ((rules.attributed s).map Prod.snd = rules.run s ∧
      (rules.attributed t).map Prod.snd = rules.run t) ∧
    (rules.attributed s).filter (isBeyond path) = (rules.attributed t).filter (isBeyond path) ∧
    (s.text? path = none →
      (∀ e ∈ rules.attributed s, e.1.isTextual = true → e.2.file ≠ path) ∧
      (rules.attributed s).filter (fun e => e.1.isTextual) =
        (rules.attributed t).filter fun e => e.1.isTextual && e.2.file ≠ path) := by
  refine ⟨⟨map_snd_attributed rules s, map_snd_attributed rules t⟩,
    attributed_beyond hs hi ht rules, fun hp => ⟨fun e he hb => ?_, ?_⟩⟩
  · exact file_ne_of_mem_check hp hb (mem_attributed he)
  · refine filter_attributed_congr fun b => ?_
    cases hb : b.isTextual with
    | false => simp only [hb, Bool.false_and, List.filter_false]
    | true =>
      have none_here : (b.check (rules.bucket b) s).filter (fun v => v.file ≠ path) =
          b.check (rules.bucket b) s :=
        List.filter_eq_self.mpr fun v hv => by simpa using file_ne_of_mem_check hp hb hv
      have same := check_off_path hs ht hb (rules.bucket b)
      rw [none_here] at same
      simpa [hb] using same

/-- Of three files one cannot be read any more: its length and its keyword are not reported, and all
else is, its dependency included. -/
theorem findings_of_changed_file :
    let small : Rule := ⟨⟨"small", .warning, none⟩, .fileSize ⟨.all, 1⟩⟩
    let noTodo : Rule := ⟨⟨"no-todo", .error, none⟩, .keywords ⟨.all, ["TODO"]⟩⟩
    let noC : Rule := ⟨⟨"no-c", .error, none⟩, .forbidden ⟨.all, .roles (.one "C")⟩⟩
    let even : Rule := ⟨⟨"even", .info, none⟩, .granularity ⟨.all, .one, .one⟩⟩
    let rules := RuleSet.ofRules [small, noTodo, noC, even]
    let symbols : List Symbol := [⟨"a.ts", "a", "A", ["c.ts"], .wholeFile⟩,
      ⟨"b.ts", "b", "A", ["c.ts"], .wholeFile⟩, ⟨"c.ts", "c", "C", [], .wholeFile⟩]
    let files (text? : Option String) : FileView :=
      { read := fun path =>
          if path = "b.ts" then text?.elim (.error .notText) .ok else .ok "TODO\nTODO"
        isThere := fun _ => true }
    let without : Scene := { symbols, files := files none }
    let before : Scene := { symbols, files := files (some "TODO\n") }
    (rules.attributed without).filter (isBeyond "b.ts") =
      (rules.attributed before).filter (isBeyond "b.ts") ∧
    (∀ e ∈ rules.attributed without, e.1.isTextual = true → e.2.file ≠ "b.ts") ∧
    (rules.attributed without).filter (fun e => e.1.isTextual) =
      ((rules.attributed before).filter fun e => e.1.isTextual && e.2.file ≠ "b.ts") ∧
    (rules.attributed before).map (fun e => (e.1, e.2.file)) =
      [(.forbidden, "a.ts"), (.forbidden, "b.ts"), (.fileSize, "a.ts"), (.fileSize, "b.ts"),
        (.fileSize, "c.ts"), (.granularity, "PROJECT"), (.keywords, "a.ts"), (.keywords, "b.ts"),
        (.keywords, "c.ts")] ∧
    (rules.attributed without).map (fun e => (e.1, e.2.file)) =
      [(.forbidden, "a.ts"), (.forbidden, "b.ts"), (.fileSize, "a.ts"), (.fileSize, "c.ts"),
        (.granularity, "PROJECT"), (.keywords, "a.ts"), (.keywords, "c.ts")] := by
  intro small noTodo noC even rules symbols files without before
  have elsewhere : ∀ q ≠ "b.ts", without.text? q = before.text? q := by
    intro q hq
    simp [without, before, files, Scene.text?, FileView.text?, hq]
  obtain ⟨-, beyond, unread⟩ :=
    text_shows_on_its_file_only rules without before "b.ts" rfl (fun _ => rfl) elsewhere
  obtain ⟨nothing, others⟩ := unread (by decide)
  exact ⟨beyond, nothing, others, by decide +kernel, by decide +kernel⟩

end ArchLint
