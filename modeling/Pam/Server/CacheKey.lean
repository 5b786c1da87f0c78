import Pam.Foundation.Codec
import Pam.Server.CachePurge

namespace Pam.Server

open Pam.Foundation List Option

/-! The key of a request in the response cache: `response_cache_key`. -/

/-- The path and the query of a request target, split at the first question
mark; the URI parser admits no line break in either. -/
structure PathAndQuery where
  rawPath : String
  query : Option String
  pathText : '?' ∉ rawPath.toList ∧ '\n' ∉ rawPath.toList
  queryText : ∀ text ∈ query, '\n' ∉ text.toList

abbrev Uri := Option PathAndQuery

def Uri.path : Uri → String
  | none => ""
  | some target => if target.rawPath.isEmpty then "/" else target.rawPath

def Uri.query : Uri → Option String
  | none => none
  | some target => target.query

def Uri.displayedPath : Uri → List Char
  | none => []
  | some target =>
    match target.rawPath.toList with
    | '/' :: rest => '/' :: rest
    | '*' :: rest => '*' :: rest
    | path => '/' :: path

def Uri.display (uri : Uri) : List Char := uri.displayedPath ++ match uri.query with
    | none => []
    | some query => '?' :: query.toList

structure RequestHead where
  method : String
  uri : Uri
  headers : List (String × List UInt8)

def RequestHead.getAll (request : RequestHead) (name : List Char) : List (List UInt8) :=
  (request.headers.filter fun header => header.1.toList == name).map Prod.snd

def RequestHead.containsKey (request : RequestHead) (name : String) : Bool :=
  request.headers.any fun header => header.1 == name

def headerText (value : List UInt8) : Option (List Char) :=
  if value.all fun byte => byte == 9 || (32 ≤ byte && byte < 127) then some (value.map Char.ofUInt8)
  else none

structure CacheKeyConfig extends CacheConfig where
  responseCachePaths : List String
  responseCacheVaryHeaders : List String

def refusesCache (value : List UInt8) : Bool := (headerText value).any fun text =>
    (text.splitOnP (· == ',')).any fun directive =>
      (trimBlank directive).map Char.toLower == "no-cache".toList

def CacheKeyConfig.caches (config : CacheKeyConfig) (request : RequestHead) : Bool :=
  request.method == "GET" && config.toCacheConfig.enabled &&
    config.responseCachePaths.contains request.uri.path &&
    !request.containsKey "authorization" && !request.containsKey "cookie" &&
    !(request.getAll "cache-control".toList).head?.any refusesCache

def RequestHead.textValues (request : RequestHead) (configured : String) : List (List Char) :=
  (request.getAll (configured.toList.map Char.toLower)).filterMap headerText

def valueMaterial (value : List Char) : List Char :=
  Nat.toDigits 10 value.length ++ ':' :: (value ++ [';'])

def headerMaterial (request : RequestHead) (configured : String) : List Char :=
  '\n' :: (configured.toList.map Char.toLower ++
    ':' :: (request.textValues configured).flatMap valueMaterial)

def CacheKeyConfig.material (config : CacheKeyConfig) (request : RequestHead) : List Char :=
  request.uri.display ++ config.responseCacheVaryHeaders.flatMap (headerMaterial request)

def responseCacheKey (digest : List Char → List UInt8)
    (config : CacheKeyConfig) (request : RequestHead) : Option (List Char) :=
  if config.caches request then some (encodeHex (digest (config.material request))) else none

def RequestHead.values (request : RequestHead) (configured : String) : List (List UInt8) :=
  request.getAll (configured.toList.map Char.toLower)

def Differ (config : CacheKeyConfig) (first second : RequestHead) : Prop :=
  first.uri.path ≠ second.uri.path ∨ first.uri.query ≠ second.uri.query ∨
    ∃ configured ∈ config.responseCacheVaryHeaders,
      first.values configured ≠ second.values configured

/-- The requests differ in the displayed path, in the query, or in the values
of a configured header that are text. -/
def DifferInText (config : CacheKeyConfig) (first second : RequestHead) : Prop :=
  first.uri.displayedPath ≠ second.uri.displayedPath ∨
    first.uri.query ≠ second.uri.query ∨ ∃ configured ∈ config.responseCacheVaryHeaders,
        (first.values configured).filter (fun value => (headerText value).isSome) ≠
          (second.values configured).filter fun value => (headerText value).isSome

theorem displayedPath_text (uri : Uri) : '?' ∉ uri.displayedPath ∧ '\n' ∉ uri.displayedPath := by
  cases uri with
  | none => exact ⟨not_mem_nil, not_mem_nil⟩
  | some target =>
    have text := target.pathText
    simp only [Uri.displayedPath]
    split
    · next path => rwa [path] at text
    · next path => rwa [path] at text
    · simpa using text

theorem query_text (uri : Uri) (found : uri.query = some query) : '\n' ∉ query.toList := by
  cases uri with
  | none => cases found
  | some target => exact target.queryText query found

theorem newline_notMem_display (uri : Uri) : '\n' ∉ uri.display := by
  simp only [Uri.display, mem_append, not_or]
  refine ⟨(displayedPath_text uri).2, ?_⟩
  cases query : uri.query with
  | none => exact not_mem_nil
  | some text =>
    simp only [mem_cons, Char.reduceEq, false_or]
    exact query_text uri query

theorem display_inj {first second : Uri} (same : first.display = second.display) :
    first.displayedPath = second.displayedPath ∧ first.query = second.query := by
  have outsideFirst := (displayedPath_text first).1
  have outsideSecond := (displayedPath_text second).1
  simp only [Uri.display] at same
  cases firstQuery : first.query with
  | none =>
    cases secondQuery : second.query with
    | none =>
      simp only [firstQuery, secondQuery, append_nil] at same
      exact ⟨same, rfl⟩
    | some query =>
      simp only [firstQuery, secondQuery, append_nil] at same
      rw [same] at outsideFirst
      simp at outsideFirst
  | some query =>
    cases secondQuery : second.query with
    | none =>
      simp only [firstQuery, secondQuery, append_nil] at same
      rw [← same] at outsideSecond
      simp at outsideSecond
    | some other =>
      simp only [firstQuery, secondQuery] at same
      obtain ⟨paths, queries⟩ := append_cons_inj outsideFirst outsideSecond same
      exact ⟨paths, congrArg some (String.toList_inj.mp queries)⟩

theorem valueMaterial_delimited : Delimited valueMaterial fun _ => True := by
  intro first second rest other _ _ same
  simp only [valueMaterial, append_assoc, cons_append] at same
  obtain ⟨lengths, values⟩ := toDigits_append_inj (by decide) same
  obtain ⟨sameValue, rests⟩ := append_inj values lengths
  exact ⟨sameValue, (List.cons.inj rests).2⟩

def EndsValues (rest : List Char) : Prop := rest = [] ∨ rest.head? = some '\n'

theorem not_endsValues_valueMaterial (value rest : List Char) :
    ¬EndsValues (valueMaterial value ++ rest) := by
  simp only [EndsValues, valueMaterial]
  cases digits : Nat.toDigits 10 value.length with
  | nil => simp
  | cons digit others =>
    have isDigit : digit.isDigit = true :=
      Nat.isDigit_of_mem_toDigits (b := 10) (n := value.length) (by omega)
        (by omega) (digits ▸ mem_cons_self ..)
    simp only [cons_append, reduceCtorEq, head?_cons, some.injEq, false_or]
    rintro rfl
    exact absurd isDigit (by decide)

theorem values_delimited : Delimited (fun values : List (List Char) => values.flatMap valueMaterial)
      EndsValues := valueMaterial_delimited.flatMap not_endsValues_valueMaterial

theorem endsValues_headers (names : List String) :
    EndsValues (names.flatMap (headerMaterial request)) := by
  cases names with
  | nil => exact .inl rfl
  | cons name names => exact .inr rfl

variable {first second : RequestHead}

theorem headers_inj {names : List String} (same : names.flatMap (headerMaterial first) =
      names.flatMap (headerMaterial second)) :
    ∀ name ∈ names, first.textValues name = second.textValues name := by
  induction names with
  | nil => exact forall_mem_nil _
  | cons name names ih =>
    simp only [flatMap_cons, headerMaterial, cons_append, append_assoc, List.cons.injEq, true_and,
      append_cancel_left_eq] at same
    obtain ⟨values, rest⟩ := values_delimited _ _ _ _
      (endsValues_headers names) (endsValues_headers names) same
    exact forall_mem_cons.mpr ⟨values, ih rest⟩

theorem material_eq_iff {config : CacheKeyConfig} : config.material first = config.material second ↔
      first.uri.display = second.uri.display ∧ ∀ name ∈ config.responseCacheVaryHeaders,
          first.textValues name = second.textValues name := by
  constructor
  · intro same
    cases names : config.responseCacheVaryHeaders with
    | nil =>
      simp only [CacheKeyConfig.material, names, flatMap_nil, append_nil] at same
      exact ⟨same, forall_mem_nil _⟩
    | cons name others =>
      simp only [CacheKeyConfig.material, names] at same
      obtain ⟨displays, rest⟩ := append_cons_inj (newline_notMem_display first.uri)
        (newline_notMem_display second.uri) same
      refine ⟨displays, headers_inj ?_⟩
      exact congrArg _ rest
  · rintro ⟨displays, values⟩
    rw [CacheKeyConfig.material]
    congr 1
    apply flatMap_congr
    intro name member
    rw [headerMaterial, headerMaterial, values name member]

theorem ofUInt8_injective : Function.Injective Char.ofUInt8 := by
  intro first second same
  have codes := congrArg Char.toNat same
  exact UInt8.toNat.inj codes

theorem map_of_headerText (found : headerText value = some text) :
    value.map Char.ofUInt8 = text := by
  rw [headerText] at found
  split at found
  · exact some.inj found
  · cases found

theorem textValues_eq_iff : first.textValues name = second.textValues name ↔
      (first.values name).filter (fun value => (headerText value).isSome) =
        (second.values name).filter fun value => (headerText value).isSome := by
  have texts (request : RequestHead) : request.textValues name =
      ((request.values name).filter fun value =>
        (headerText value).isSome).map (List.map Char.ofUInt8) := by
    rw [RequestHead.textValues, RequestHead.values]
    induction request.getAll (name.toList.map Char.toLower) with
    | nil => rfl
    | cons value values ih =>
      rw [filterMap_cons, filter_cons, ih]
      cases found : headerText value with
      | none => rfl
      | some text => simp [map_of_headerText found]
  rw [texts, texts]
  exact (map_injective_iff.mpr (map_injective_iff.mpr ofUInt8_injective)).eq_iff

theorem responseCacheKey_separates_iff (digest : List Char → List UInt8)
    (injective : Function.Injective digest) (config : CacheKeyConfig)
    (first second : RequestHead) (firstKey secondKey : List Char)
    (hasFirst : responseCacheKey digest config first = some firstKey)
    (hasSecond : responseCacheKey digest config second = some secondKey) :
    (Differ config first second → firstKey ≠ secondKey) ↔
      (Differ config first second → DifferInText config first second) := by
  have key {request : RequestHead} {key : List Char}
      (has : responseCacheKey digest config request = some key) :
      key = encodeHex (digest (config.material request)) := by
    rw [responseCacheKey] at has
    split at has
    · exact (some.inj has).symm
    · cases has
  have keys : firstKey = secondKey ↔ config.material first = config.material second := by
    rw [key hasFirst, key hasSecond]
    exact (encodeHex_injective.comp injective).eq_iff
  have texts : config.material first = config.material second ↔
      ¬DifferInText config first second := by
    rw [material_eq_iff]
    simp only [DifferInText, not_or, not_exists, not_and, not_not, textValues_eq_iff]
    constructor
    · rintro ⟨displays, values⟩
      obtain ⟨paths, queries⟩ := display_inj displays
      exact ⟨paths, queries, values⟩
    rintro ⟨paths, queries, values⟩
    refine ⟨?_, values⟩
    rw [Uri.display, Uri.display, paths, queries]
  rw [ne_eq, keys, texts, not_not]

def languageConfig : CacheKeyConfig where
  responseCacheMaxEntries := 8
  responseCacheMaxBytes := 1024
  responseCacheTtlMs := 1000
  responseCacheStaleWhileRevalidateMs := 0
  responseCachePaths := ["/"]
  responseCacheVaryHeaders := ["Accept-Language"]

def rootUri : Uri := some ⟨"/", none, by decide, by simp⟩

def languageRequest (language : List UInt8) : RequestHead where
  method := "GET"
  uri := rootUri
  headers := [("accept-language", language)]

/-- Two values outside visible ASCII leave no trace in the key. -/
theorem latin_values_share_key :
    Differ languageConfig (languageRequest [0xE9]) (languageRequest [0xE8]) ∧
      ∀ digest, ∃ key, responseCacheKey digest languageConfig (languageRequest [0xE9]) = some key ∧
          responseCacheKey digest languageConfig (languageRequest [0xE8]) = some key := by
  refine ⟨.inr (.inr ⟨"Accept-Language", by decide, by decide⟩), ?_⟩
  intro digest
  exact ⟨_, rfl, rfl⟩

def portugueseDigest : List UInt8 := [0xc7, 0x8d, 0xd5, 0x2e, 0x7d, 0xf0, 0x93, 0xd4,
    0xbc, 0x32, 0x84, 0xfa, 0x00, 0x78, 0x67, 0xea, 0x0e, 0x2e, 0x07, 0x65, 0x5a, 0xa3, 0x07, 0xd4,
    0x6c, 0x89, 0xa0, 0xaf, 0x71, 0xe5, 0x54, 0xa5]

def englishDigest : List UInt8 := [0x7f, 0x98, 0x06, 0x05, 0xb6, 0x95, 0x53, 0x3a,
    0x24, 0x6e, 0x0c, 0x8c, 0x85, 0xa5, 0x1b, 0x30, 0x39, 0xfd, 0x18, 0x31, 0xd1, 0x6a, 0x56, 0x5c,
    0x80, 0x19, 0x35, 0x14, 0xdb, 0xc0, 0x33, 0x8b]

def sampleDigest : List Char → List UInt8 :=
  tabulatedDigest [("/\naccept-language:2:pt;".toList, portugueseDigest),
    ("/\naccept-language:2:en;".toList, englishDigest)]

theorem sampleDigest_injective : Function.Injective sampleDigest :=
  tabulatedDigest_injective (by decide) (by decide)

theorem responseCacheKey_languages : Differ languageConfig (languageRequest [112, 116])
        (languageRequest [101, 110]) ∧ responseCacheKey sampleDigest languageConfig
          (languageRequest [112, 116]) = some (encodeHex portugueseDigest) ∧
      responseCacheKey sampleDigest languageConfig
          (languageRequest [101, 110]) = some (encodeHex englishDigest) ∧
      encodeHex portugueseDigest ≠ encodeHex englishDigest := by
  have differ : Differ languageConfig (languageRequest [112, 116]) (languageRequest [101, 110]) :=
    .inr (.inr ⟨"Accept-Language", by decide, by decide⟩)
  have differInText : DifferInText languageConfig
      (languageRequest [112, 116]) (languageRequest [101, 110]) :=
    .inr (.inr ⟨"Accept-Language", by decide, by decide⟩)
  have portuguese : responseCacheKey sampleDigest languageConfig
      (languageRequest [112, 116]) = some (encodeHex portugueseDigest) := by
    decide +kernel
  have english : responseCacheKey sampleDigest languageConfig
      (languageRequest [101, 110]) = some (encodeHex englishDigest) := by
    decide +kernel
  exact ⟨differ, portuguese, english,
    (responseCacheKey_separates_iff sampleDigest sampleDigest_injective _ _ _ _
      _ portuguese english).mpr (fun _ => differInText) differ⟩

end Pam.Server
