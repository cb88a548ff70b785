import SchemaBindings.Unicode.RangeTable

/-!
# Names without a table

Some names are known without standing for a set of their own: properties that are not a matter of
yes or no, or that are kept for normalization, and values that no character has. Naming one of
these is another fault than naming what nobody knows.
-/
namespace SchemaBindings.Unicode

/-- The properties without a table, by their normal names. -/
def propertiesWithoutTable : List String :=
  (separated
"cjkaccountingnumeric kaccountingnumeric cjkothernumeric kothernumeric cjkprimarynumeric
kprimarynumeric nv numericvalue bmg bidimirroringglyph bpb bidipairedbracket cf casefolding
cjkcompatibilityvariant kcompatibilityvariant dm decompositionmapping equideo
equivalentunifiedideograph fcnfkc fcnfkcclosure lc lowercasemapping nfkccf nfkccasefold
nfkcscf nfkcsimplecasefold scf simplecasefolding sfc slc simplelowercasemapping stc
simpletitlecasemapping suc simpleuppercasemapping tc titlecasemapping uc uppercasemapping
cjkiicore kiicore cjkirggsource kirggsource cjkirghsource kirghsource cjkirgjsource
kirgjsource cjkirgkpsource kirgkpsource cjkirgksource kirgksource cjkirgmsource kirgmsource
cjkirgssource kirgssource cjkirgtsource kirgtsource cjkirguksource kirguksource
cjkirgusource kirgusource cjkirgvsource kirgvsource cjkrsunicode krsunicode
unicoderadicalstroke urs isc ocomment jsn jamoshortname kehcat kehdesc kehhg kehifao
kehjsesh na name na1 unicode1name namealias scx scriptextensions age blk block sc script bc
bidiclass bpt bidipairedbrackettype ccc canonicalcombiningclass dt decompositiontype ea
eastasianwidth gc generalcategory gcb graphemeclusterbreak hst hangulsyllabletype incb
indicconjunctbreak inpc indicpositionalcategory insc indicsyllabiccategory jg joininggroup
jt joiningtype lb linebreak nfcqc nfcquickcheck nfdqc nfdquickcheck nfkcqc nfkcquickcheck
nfkdqc nfkdquickcheck nt numerictype sb sentencebreak vo verticalorientation wb wordbreak ce
compositionexclusion compex fullcompositionexclusion cwkcf changeswhennfkccasefolded
kehnomirror kehnorotate xonfc expandsonnfc xonfd expandsonnfd xonfkc expandsonnfkc xonfkd
expandsonnfkd".toList []).map .ofList

/-- The scripts without a table, by their normal names. -/
def scriptsWithoutTable : List String := ["zzzz", "unknown", "hrkt", "katakanaorhiragana"]

end SchemaBindings.Unicode
