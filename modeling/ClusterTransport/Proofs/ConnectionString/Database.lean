import ClusterTransport.Proofs.ConnectionString.Rendering
import ClusterTransport.Proofs.Url.Path

/-!
# Databases as paths and in queries

A database can be named by the path of a connection string or in its query. The query is decoded;
the path is that of the URL, percent-encoded, so that the two agree on plain names only.
-/

namespace ClusterTransport.ConnectionString

open Text Url

/-- A segment of the name of a database that neither ends a path nor stands for another text in a
query, and is not resolved in a path. -/
structure IsSegment (segment : List Char) : Prop where
  ne_dots : segment ≠ ['.'] ∧ segment ≠ ['.', '.']
  allowed : ∀ c ∈ segment, 0x20 ≤ c.toNat ∧ c ∉ ['/', '?', '#', '%', '&', '+']

/-- When a path names the database that the same text names in a query: it is not the lone slash
that names none, does not end in dots, and holds nothing that a path has to encode. -/
structure IsKept (init : List (List Char)) (last : List Char) : Prop where
  ne_root : init ≠ [] ∨ last ≠ []
  ne_dots : last ≠ ['.'] ∧ last ≠ ['.', '.']
  plain : ∀ c ∈ pathOf (init ++ [last]), c.toNat < 0x80 ∧ Percent.reservedInPath c = false

variable {useTls : Bool} {host : List Char} {port : Option UInt16} {init : List (List Char)}
  {last : List Char}

private theorem pathOf_append (xs ys : List (List Char)) :
    pathOf (xs ++ ys) = pathOf xs ++ pathOf ys :=
  List.flatMap_append

private theorem pathOf_concat (init : List (List Char)) (last : List Char) :
    pathOf (init ++ [last]) = pathOf init ++ '/' :: last := by
  rw [pathOf_append, pathOf, pathOf, List.flatMap_singleton]

private theorem pathOf_forall {P : Char → Prop} (hslash : P '/') {segments : List (List Char)}
    (h : ∀ g ∈ segments, ∀ c ∈ g, P c) : ∀ c ∈ pathOf segments, P c := by
  intro c hc
  obtain ⟨g, hg, hc⟩ := List.mem_flatMap.mp hc
  rcases List.mem_cons.mp hc with rfl | hc
  · exact hslash
  · exact h g hg c hc

private theorem exists_pathOf_eq {segments : List (List Char)} (h : segments ≠ []) :
    ∃ path, pathOf segments = '/' :: path := by
  cases segments with
  | nil => exact absurd rfl h
  | cons g segments => exact ⟨g ++ pathOf segments, rfl⟩

def shown (last : List Char) : List Char :=
  dropEndWhile (· == ' ') last

/-- Only spaces at the end of a path get lost when a connection string is read. -/
theorem clean_pathOf {front : List Char} (hne : front ≠ [])
    (hfront : ∀ c ∈ front, 0x20 < c.toNat) (h : ∀ g ∈ init ++ [last], IsSegment g) :
    clean (front ++ pathOf (init ++ [last])) = front ++ pathOf (init ++ [shown last]) := by
  have hfirst : ∀ c ∈ (front ++ pathOf (init ++ [last])).head?, c ≠ ' ' := by
    obtain ⟨c, rest, rfl⟩ := List.exists_cons_of_ne_nil hne
    rintro d hd rfl
    cases hd
    exact absurd (hfront ' ' (.head _)) (by decide)
  have hcontrols : ∀ c ∈ front ++ pathOf (init ++ [last]), 0x20 ≤ c.toNat :=
    List.forall_mem_append.mpr ⟨fun c hc => Nat.le_of_lt (hfront c hc),
      pathOf_forall (by decide) fun g hg c hc => ((h g hg).allowed c hc).1⟩
  rw [clean_eq_dropEndWhile hfirst hcontrols, pathOf_concat, pathOf_concat, ← List.append_assoc,
    dropEndWhile_append_cons (by decide), List.append_assoc]
  rfl

private theorem allowed_of_mem_shown (h : ∀ g ∈ init ++ [last], IsSegment g) :
    ∀ g ∈ init ++ [shown last], ∀ c ∈ g, c ∉ ['/', '?', '#', '%', '&', '+'] := by
  intro g hg c hc
  rcases List.mem_append.mp hg with hg | hg
  · exact ((h g (List.mem_append_left _ hg)).allowed c hc).2
  · rw [List.mem_singleton.mp hg] at hc
    exact ((h last (by simp)).allowed c (mem_of_mem_dropEndWhile hc)).2

private theorem origin_ne_nil (useTls : Bool) (host : List Char) (port : Option UInt16) :
    origin useTls host port ≠ [] := by
  cases useTls <;> exact List.cons_ne_nil _ _

/-- A database in the query is the text that stands there, without the spaces at its end. -/
theorem ofConnectionString_query (useTls : Bool) (port : Option UInt16) (hne : host ≠ [])
    (hhost : ∀ c ∈ host, isPlainInHost c = true)
    (h : ∀ g ∈ init ++ [last], IsSegment g) :
    ∃ d, Config.ofConnectionString (String.ofList (origin useTls host port ++
        ("/?database=".toList ++ pathOf (init ++ [last])))) = .ok d ∧
      d.database = String.ofList (pathOf (init ++ [shown last])) := by
  have hallowed : ∀ c ∈ pathOf (init ++ [shown last]), c ∉ ['?', '#', '%', '&', '+'] :=
    pathOf_forall (by decide) fun g hg c hc hmem =>
      allowed_of_mem_shown h g hg c hc (List.mem_cons_of_mem _ hmem)
  have hfront : ∀ c ∈ origin useTls host port ++ "/?database=".toList, 0x20 < c.toNat :=
    List.forall_mem_append.mpr ⟨gt_of_mem_origin hhost, List.all_iff_forall_prop.mp (by decide)⟩
  have hclean : clean (String.ofList (origin useTls host port ++
      ("/?database=".toList ++ pathOf (init ++ [last])))).toList =
        origin useTls host port ++
          '/' :: '?' :: ("database".toList ++ '=' :: pathOf (init ++ [shown last])) := by
    rw [String.toList_ofList, ← List.append_assoc, clean_pathOf (by simp [origin_ne_nil]) hfront h,
      List.append_assoc]
    rfl
  have htext : ∀ c ∈ pathOf (init ++ [shown last]), c ≠ '#' ∧ c ≠ '&' := by
    intro c hc
    constructor <;> rintro rfl <;> exact hallowed _ hc (by decide)
  refine ⟨_, ofConnectionString_of_query hne hhost htext hclean, Percent.decodeForm_eq_self ?_⟩
  intro c hc
  constructor <;> rintro rfl <;> exact hallowed _ hc (by decide)

/-- A database in the path is the path of the URL, but for a lone slash. -/
theorem ofConnectionString_path (useTls : Bool) (port : Option UInt16) (hne : host ≠ [])
    (hhost : ∀ c ∈ host, isPlainInHost c = true)
    (h : ∀ g ∈ init ++ [last], IsSegment g) :
    ∃ c, Config.ofConnectionString
        (String.ofList (origin useTls host port ++ pathOf (init ++ [last]))) = .ok c ∧
      c.database =
        let path := readPath (pathOf (init ++ [shown last]))
        if path = "/" then "" else path := by
  have hsegments : init ++ [shown last] ≠ [] := by simp
  have hallowed : ∀ c ∈ pathOf (init ++ [shown last]), c ≠ '#' ∧ c ≠ '?' :=
    pathOf_forall (by decide) fun g hg c hc => by
      constructor <;> rintro rfl <;> exact allowed_of_mem_shown h g hg _ hc (by decide)
  obtain ⟨path, hpath⟩ := exists_pathOf_eq hsegments
  have hclean : clean (String.ofList (origin useTls host port ++ pathOf (init ++ [last]))).toList =
      origin useTls host port ++ '/' :: path := by
    rw [String.toList_ofList,
      clean_pathOf (origin_ne_nil useTls host port) (gt_of_mem_origin hhost) h, hpath]
  obtain ⟨url, hshown, hquery, hc⟩ := ofConnectionString_of_clean hne hhost hclean
  rw [← hpath, splitQuery_of_not_mem hallowed] at hshown hquery
  exact ⟨_, hc, (database_of_path hquery).trans (by rw [hshown])⟩

private theorem isOrdinary_of_isSegment {g : List Char} (h : IsSegment g) : isOrdinary g = true :=
  (isOrdinary_iff fun hpercent => (h.allowed _ hpercent).2 (by decide)).mpr h.ne_dots

private theorem slash_not_mem (h : ∀ g ∈ init ++ [last], IsSegment g) :
    ∀ g ∈ init ++ [shown last], '/' ∉ g :=
  fun g hg hslash => allowed_of_mem_shown h g hg '/' hslash (by decide)

private theorem isOrdinary_shown_iff (h : ∀ g ∈ init ++ [last], IsSegment g) :
    isOrdinary (shown last) = true ↔ shown last ≠ ['.'] ∧ shown last ≠ ['.', '.'] :=
  isOrdinary_iff fun hpercent => allowed_of_mem_shown h _ (by simp) '%' hpercent (by decide)

private theorem readPath_of_ne_dots (h : ∀ g ∈ init ++ [last], IsSegment g)
    (hdots : shown last ≠ ['.'] ∧ shown last ≠ ['.', '.']) :
    readPath (pathOf (init ++ [shown last])) =
      String.ofList (Percent.encode Percent.reservedInPath (pathOf (init ++ [shown last]))) := by
  have hordinary : ∀ g ∈ init ++ [shown last], isOrdinary g = true := by
    intro g hg
    rcases List.mem_append.mp hg with hg | hg
    · exact isOrdinary_of_isSegment (h g (List.mem_append_left _ hg))
    · rw [List.mem_singleton.mp hg]
      exact (isOrdinary_shown_iff h).mpr hdots
  rw [readPath_pathOf (by simp) (slash_not_mem h), resolveDots_of_ordinary hordinary]

private theorem exists_readPath_of_dots (h : ∀ g ∈ init ++ [last], IsSegment g)
    (hdots : ¬(shown last ≠ ['.'] ∧ shown last ≠ ['.', '.'])) :
    ∃ path, readPath (pathOf (init ++ [shown last])) = String.ofList (path ++ ['/']) := by
  have hordinary : ∀ g ∈ init, isOrdinary g = true :=
    fun g hg => isOrdinary_of_isSegment (h g (List.mem_append_left _ hg))
  have hlast : isOrdinary (shown last) = false :=
    Bool.eq_false_iff.mpr fun hmem => hdots ((isOrdinary_shown_iff h).mp hmem)
  obtain ⟨rest, hrest⟩ := exists_resolveDots_eq (init.reverse ++ []) hlast
  rw [readPath_pathOf (by simp) (slash_not_mem h), resolveDots_append _ _ hordinary, hrest,
    encode_pathOf, List.map_append, List.map_singleton, pathOf_concat]
  exact ⟨_, rfl⟩

private theorem encode_pathOf_ne (h : init ≠ [] ∨ last ≠ []) :
    Percent.encode Percent.reservedInPath (pathOf (init ++ [last])) ≠ ['/'] := by
  intro heq
  have hlength := Percent.length_le_encode Percent.reservedInPath (pathOf (init ++ [last]))
  rw [heq, pathOf_concat, List.length_append, List.length_cons, List.length_singleton] at hlength
  rcases h with hinit | hlast
  · obtain ⟨path, hpath⟩ := exists_pathOf_eq hinit
    rw [hpath, List.length_cons] at hlength
    omega
  · have hpos := List.length_pos_iff.mpr hlast
    omega

private theorem eq_of_ofList_append_eq {s t : List Char} {c d : Char}
    (h : String.ofList (s ++ [c]) = String.ofList (t ++ [d])) : c = d := by
  have hlist := congrArg (fun x : String => x.toList.getLast?) h
  simpa using hlist

private theorem database_ne_of_dots (h : ∀ g ∈ init ++ [last], IsSegment g)
    (hdots : ¬(shown last ≠ ['.'] ∧ shown last ≠ ['.', '.'])) :
    (let path := readPath (pathOf (init ++ [shown last]))
      if path = "/" then "" else path) ≠ String.ofList (pathOf (init ++ [shown last])) := by
  obtain ⟨path, hread⟩ := exists_readPath_of_dots h hdots
  have hdot : ∃ rest, shown last = rest ++ ['.'] := by
    rw [not_and_or, not_ne_iff, not_ne_iff] at hdots
    rcases hdots with hlast | hlast
    · exact ⟨[], hlast⟩
    · exact ⟨['.'], hlast⟩
  obtain ⟨rest, hrest⟩ := hdot
  rw [hread, pathOf_concat, hrest, ← List.cons_append, ← List.append_assoc]
  dsimp only
  split
  next => exact fun heq => absurd (String.ofList_inj.mp heq.symm) (by simp)
  next => exact fun heq => absurd (eq_of_ofList_append_eq heq) (by decide)

/-- A path and a query name the same database just when the path is kept as it is. Any other path,
but for one that ends in dots and for a lone slash, names its percent-encoded form. -/
theorem database_of_path_eq_iff (useTls : Bool) (port : Option UInt16) (hne : host ≠ [])
    (hhost : ∀ c ∈ host, isPlainInHost c = true)
    (h : ∀ g ∈ init ++ [last], IsSegment g) :
    ∃ c d,
      Config.ofConnectionString
        (String.ofList (origin useTls host port ++ pathOf (init ++ [last]))) = .ok c ∧
      Config.ofConnectionString (String.ofList (origin useTls host port ++
        ("/?database=".toList ++ pathOf (init ++ [last])))) = .ok d ∧
      d.database = String.ofList (pathOf (init ++ [shown last])) ∧
      (c.database = d.database ↔ IsKept init (shown last)) ∧
      (init ≠ [] ∨ shown last ≠ [] → shown last ≠ ['.'] ∧ shown last ≠ ['.', '.'] →
        c.database = String.ofList
          (Percent.encode Percent.reservedInPath (pathOf (init ++ [shown last])))) := by
  obtain ⟨c, hc, hpath⟩ := ofConnectionString_path useTls port hne hhost h
  obtain ⟨d, hd, hquery⟩ := ofConnectionString_query useTls port hne hhost h
  have hencoded (hroot : init ≠ [] ∨ shown last ≠ [])
      (hdots : shown last ≠ ['.'] ∧ shown last ≠ ['.', '.']) :
      c.database = String.ofList
        (Percent.encode Percent.reservedInPath (pathOf (init ++ [shown last]))) := by
    rw [hpath, readPath_of_ne_dots h hdots]
    exact if_neg fun heq => encode_pathOf_ne hroot (String.ofList_inj.mp heq)
  refine ⟨c, d, hc, hd, hquery, ?_, hencoded⟩
  by_cases hdots : shown last ≠ ['.'] ∧ shown last ≠ ['.', '.']
  · by_cases hroot : init ≠ [] ∨ shown last ≠ []
    · rw [hencoded hroot hdots, hquery, String.ofList_inj, Percent.encode_eq_self_iff]
      exact ⟨fun hplain => ⟨hroot, hdots, hplain⟩, fun hkept => hkept.plain⟩
    · refine iff_of_false (fun heq => ?_) fun hkept => hroot hkept.ne_root
      rw [hpath, hquery, readPath_of_ne_dots h hdots] at heq
      rw [not_or, not_ne_iff, not_ne_iff] at hroot
      rw [hroot.1, hroot.2] at heq
      exact absurd heq (by decide)
  · rw [hpath, hquery]
    exact iff_of_false (database_ne_of_dots h hdots) fun hkept => hdots hkept.ne_dots

theorem database_of_path_eq_iff_blank :
    ∃ c d, Config.ofConnectionString "grpc://h/ru/db-1 " = .ok c ∧
      Config.ofConnectionString "grpc://h/?database=/ru/db-1 " = .ok d ∧
      d.database = "/ru/db-1" ∧ c.database = d.database := by
  have hhost : ∀ c ∈ ['h'], isPlainInHost c = true := List.all_iff_forall_prop.mp (by decide)
  have hsegments : ∀ g ∈ [['r', 'u']] ++ [['d', 'b', '-', '1', ' ']], IsSegment g := by
    simp only [List.forall_mem_append, List.forall_mem_singleton]
    exact ⟨⟨by decide, List.all_iff_forall_prop.mp (by decide)⟩, by decide,
      List.all_iff_forall_prop.mp (by decide)⟩
  obtain ⟨c, d, hc, hd, hdatabase, heq, _⟩ :=
    database_of_path_eq_iff false none (by decide) hhost hsegments
  refine ⟨c, d, hc, hd, hdatabase, heq.mpr ⟨by decide, by decide, ?_⟩⟩
  exact List.all_iff_forall_prop.mp (by decide)

/-- A blank in a path stays encoded, and is a blank in a query. -/
theorem blank_in_path_stays_encoded :
    ∃ c d, Config.ofConnectionString "grpc://h/a b" = .ok c ∧
      Config.ofConnectionString "grpc://h/?database=/a b" = .ok d ∧
      c.database = "/a%20b" ∧ d.database = "/a b" ∧ c.database ≠ d.database := by
  have hpath : (Config.ofConnectionString "grpc://h/a b").toOption.map (·.database) =
      some "/a%20b" := by
    decide +kernel
  have hquery : (Config.ofConnectionString "grpc://h/?database=/a b").toOption.map (·.database) =
      some "/a b" := by
    decide +kernel
  obtain ⟨c, hc, hcdatabase⟩ := Option.map_eq_some_iff.mp hpath
  obtain ⟨d, hd, hddatabase⟩ := Option.map_eq_some_iff.mp hquery
  exact ⟨c, d, Config.eq_ok_of_toOption_eq_some hc, Config.eq_ok_of_toOption_eq_some hd,
    hcdatabase, hddatabase, by rw [hcdatabase, hddatabase]; decide⟩

end ClusterTransport.ConnectionString
