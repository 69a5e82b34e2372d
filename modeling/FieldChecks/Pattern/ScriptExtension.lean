import FieldChecks.Pattern.Script

/-!
# Script extensions

A mark or a sign may be used with several scripts. The table lists the
characters for which the scripts that use them are known to be others
than the one script that they belong to, in the form
`first-last>script+script`; a character with many scripts has several
entries.
-/

namespace FieldChecks.Pattern

namespace ScriptExtension

/-- The characters and the codes of the scripts that use them. -/
def tableText : String :=
  "
  b7>avst+cari+copt+dupl+elba+geor+glag+gong+goth+grek+hani+latn+lydi+mahj b7>perm+shaw
  2bc>beng+cyrl+deva+latn+lisu+thai+toto 2c7>bopo+latn 2c9-2cb>bopo+latn 2cd>latn+lisu
  2d7>latn+thai 2d9>bopo+latn 300>cher+copt+cyrl+grek+latn+perm+sunu+tale
  301>cher+cyrl+grek+latn+osge+sunu+tale+todr 302>cher+cyrl+latn+tfng
  303>glag+latn+sunu+syrc+thai 304>aghb+cher+copt+cyrl+goth+grek+latn+osge+syrc+tfng+todr
  305>copt+elba+glag+goth+kana+latn 306>cyrl+grek+latn+perm
  307>copt+dupl+hebr+latn+perm+syrc+tale+tfng+todr
  308>armn+cyrl+dupl+goth+grek+hebr+latn+perm+syrc+tale 309>latn+tfng 30a>dupl+latn+syrc
  30b>cher+cyrl+latn+osge 30c>cher+latn+tale 30d>latn+sunu 30e>ethi+latn 310>latn+sunu
  311>cyrl+latn+todr 313>grek+latn+perm+todr 320>latn+syrc 323>cher+dupl+kana+latn+syrc
  324>cher+dupl+latn+syrc 325>latn+syrc 32d>latn+sunu+syrc 32e>latn+syrc 330>cher+latn+syrc
  331>aghb+cher+goth+latn+sunu+thai 342>grek 345>grek 358>latn+osge 35e>aghb+latn+todr
  363-36f>latn 374-375>copt+grek 483>cyrl+perm 484>cyrl+glag 485-486>cyrl+latn 487>cyrl+glag
  589>armn+geor+glag 60c>arab+gara+nkoo+rohg+syrc+thaa+yezi
  61b>arab+gara+nkoo+rohg+syrc+thaa+yezi 61c>arab+syrc+thaa
  61f>adlm+arab+gara+nkoo+rohg+syrc+thaa+yezi 640>adlm+arab+mand+mani+ougr+phlp+rohg+sogd+syrc
  64b-655>arab+syrc 660-669>arab+thaa+yezi 670>arab+syrc 6d4>arab+rohg
  951>beng+deva+gran+gujr+guru+knda+latn+mlym+orya+shrd+taml+telu+tirh
  952>beng+deva+gran+gujr+guru+knda+latn+mlym+orya+taml+telu+tirh
  964>beng+deva+dogr+gong+gonm+gran+gujr+guru+knda+mahj+mlym+nand+onao+orya
  964>sind+sinh+sylo+takr+taml+telu+tirh
  965>beng+deva+dogr+gong+gonm+gran+gujr+gukh+guru+knda+limb+mahj+mlym+nand
  965>onao+orya+sind+sinh+sylo+takr+taml+telu+tirh 966-96f>deva+dogr+kthi+mahj
  9e6-9ef>beng+cakm+sylo a66-a6f>guru+mult ae6-aef>gujr+khoj be6-bf3>gran+taml
  ce6-cef>knda+nand+tutg 1040-1049>cakm+mymr+tale 10fb>geor+glag+latn 16eb-16ed>runr
  1735-1736>buhd+hano+tagb+tglg 1802-1803>mong+phag 1805>mong+phag 1cd0>beng+deva+gran+knda
  1cd1>deva 1cd2>beng+deva+gran+knda 1cd3>deva+gran+knda 1cd4>deva 1cd5-1cd6>beng+deva
  1cd7>deva+shrd 1cd8>beng+deva 1cd9>deva+shrd 1cda>deva+knda+mlym+orya+taml+telu 1cdb>deva
  1cdc-1cdd>deva+shrd 1cde-1cdf>deva 1ce0>deva+shrd 1ce1>beng+deva 1ce2-1ce8>deva
  1ce9>deva+nand 1cea>beng+deva 1ceb-1cec>deva 1ced>beng+deva 1cee-1cf1>deva
  1cf2>beng+deva+gran+knda+mlym+nand+orya+sinh+telu+tirh+tutg 1cf3>deva+gran
  1cf4>deva+gran+knda+tutg 1cf5-1cf6>beng+deva 1cf7>beng 1cf8-1cf9>deva+gran 1cfa>nand
  1dc0-1dc1>grek 1df8>cyrl+latn+syrc 1dfa>syrc 202f>latn+mong+phag 204f>adlm+arab
  205a>cari+geor+glag+hung+lyci+orkh 205d>cari+grek+hung+mero 20f0>deva+gran+latn
  2e17>copt+latn 2e30>avst+orkh 2e31>avst+cari+geor+hung+kthi+lydi+samr 2e3c>dupl
  2e41>adlm+arab+hung 2e43>cyrl+glag 2ff0-2fff>hani+tang
  3001>bopo+hang+hani+hira+kana+mong+yiii 3002>bopo+hang+hani+hira+kana+mong+phag+yiii
  3003>bopo+hang+hani+hira+kana 3006>hani 3008-3009>bopo+hang+hani+hira+kana+mong+tibt+yiii
  300a-300b>bopo+hang+hani+hira+kana+lisu+mong+tibt+yiii
  300c-3011>bopo+hang+hani+hira+kana+yiii 3013>bopo+hang+hani+hira+kana
  3014-301b>bopo+hang+hani+hira+kana+yiii 301c-301f>bopo+hang+hani+hira+kana
  302a-302d>bopo+hani 3030>bopo+hang+hani+hira+kana 3031-3035>hira+kana
  3037>bopo+hang+hani+hira+kana 303c-303d>hani+hira+kana 303e-303f>hani 3099-309c>hira+kana
  30a0>hira+kana 30fb>bopo+hang+hani+hira+kana+yiii 30fc>hira+kana 3190-319f>hani
  31c0-31e5>hani 31ef>hani+tang 3220-3247>hani 3280-32b0>hani 32c0-32cb>hani 32ff>hani
  3358-3370>hani 337b-337f>hani 33e0-33fe>hani a66f>cyrl+glag a700-a707>hani+latn
  a830-a832>deva+dogr+gujr+guru+khoj+knda+kthi+mahj+mlym+modi+nand+shrd+sind+takr
  a830-a832>tirh+tutg
  a833-a835>deva+dogr+gujr+guru+khoj+knda+kthi+mahj+modi+nand+shrd+sind+takr+tirh
  a833-a835>tutg a836-a837>deva+dogr+gujr+guru+khoj+kthi+mahj+modi+sind+takr+tirh
  a838>deva+dogr+gujr+guru+khoj+kthi+mahj+modi+shrd+sind+takr+tirh
  a839>deva+dogr+gujr+guru+khoj+kthi+mahj+modi+sind+takr+tirh a8f1>beng+deva+tutg
  a8f3>deva+taml a92e>kali+latn+mymr a9cf>bugi+java fd3e-fd3f>arab+nkoo fdf2>arab+thaa
  fdfd>arab+thaa fe45-fe46>bopo+hang+hani+hira+kana ff61-ff65>bopo+hang+hani+hira+kana+yiii
  ff70>hira+kana ff9e-ff9f>hira+kana 10100-10101>cpmn+cprt+linb 10102>cprt+linb
  10107-10133>cprt+lina+linb 10137-1013f>cprt+linb 102e0-102fb>arab+copt 10af2>mani+ougr
  11301>gran+taml 11303>gran+taml 1133b-1133c>gran+taml 11fd0-11fd1>gran+taml 11fd3>gran+taml
  1bca0-1bca3>dupl 1d360-1d371>hani 1f250-1f251>hani"

/-- The characters and the scripts of an entry. -/
def readItem? (entry : String) : Option ((Nat × Nat) × List String) :=
  match entry.splitOn ">" with
  | [range, scripts] => (RangeTable.readItem? range).map fun range => (range, scripts.splitOn "+")
  | _ => none

/-- The table that `tableText` writes. -/
def table : List ((Nat × Nat) × List String) :=
  (tableEntries tableText).filterMap readItem?

/-- The characters that the table is about. -/
def shared : RangeTable :=
  .ofRanges (table.map (·.1))

/-- The characters that a script uses: those of the table with the script, and those that belong
to the script and are not in the table. -/
def users (script : NamedSet) : RangeTable :=
  let listed := table.filter fun (_, scripts) => scripts.any script.names.contains
  (script.table.difference shared).union (.ofRanges (listed.map (·.1)))

end ScriptExtension

end FieldChecks.Pattern
