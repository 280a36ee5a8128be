import Pipework.Unicode.Script

/-!
# Script extensions

Some characters are written in several scripts, or in another than their own. The runs give the
codes of these scripts, as Unicode 16 has them; a run without codes is of characters that occur in
their own script only.
-/

namespace Pipework.Unicode.ScriptExtension

def runs : LabelRuns :=
  .ofRuns [
    "183 1AvstCariCoptDuplElbaGeorGlagGongGothGrekHaniLatnLydiMahjPermShaw 516",
    "1BengCyrlDevaLatnLisuThaiToto 10 1BopoLatn 1 3BopoLatn 1 1LatnLisu 9 1LatnThai 1 1BopoLatn",
    "38 1CherCoptCyrlGrekLatnPermSunuTale 1CherCyrlGrekLatnOsgeSunuTaleTodr 1CherCyrlLatnTfng",
    "1GlagLatnSunuSyrcThai 1AghbCherCoptCyrlGothGrekLatnOsgeSyrcTfngTodr",
    "1CoptElbaGlagGothKanaLatn 1CyrlGrekLatnPerm 1CoptDuplHebrLatnPermSyrcTaleTfngTodr",
    "1ArmnCyrlDuplGothGrekHebrLatnPermSyrcTale 1LatnTfng 1DuplLatnSyrc 1CherCyrlLatnOsge",
    "1CherLatnTale 1LatnSunu 1EthiLatn 1 1LatnSunu 1CyrlLatnTodr 1 1GrekLatnPermTodr 12 1LatnSyrc",
    "2 1CherDuplKanaLatnSyrc 1CherDuplLatnSyrc 1LatnSyrc 7 1LatnSunuSyrc 1LatnSyrc 1",
    "1CherLatnSyrc 1AghbCherGothLatnSunuThai 16 1Grek 2 1Grek 18 1LatnOsge 5 1AghbLatnTodr 4",
    "13Latn 4 2CoptGrek 269 1CyrlPerm 1CyrlGlag 2CyrlLatn 1CyrlGlag 257 1ArmnGeorGlag 130",
    "1ArabGaraNkooRohgSyrcThaaYezi 14 1ArabGaraNkooRohgSyrcThaaYezi 1ArabSyrcThaa 2",
    "1AdlmArabGaraNkooRohgSyrcThaaYezi 32 1AdlmArabMandManiOugrPhlpRohgSogdSyrc 10 11ArabSyrc 10",
    "10ArabThaaYezi 6 1ArabSyrc 99 1ArabRohg 636",
    "1BengDevaGranGujrGuruKndaLatnMlymOryaShrdTamlTeluTirh",
    "1BengDevaGranGujrGuruKndaLatnMlymOryaTamlTeluTirh 17",
    "1BengDevaDogrGongGonmGranGujrGuruKndaMahjMlymNandOnaoOryaSindSinhSyloTakrTamlTeluTirh",
    "1BengDevaDogrGongGonmGranGujrGukhGuruKndaLimbMahjMlymNandOnaoOryaSindSinhSyloTakrTamlTeluTirh",
    "10DevaDogrKthiMahj 118 10BengCakmSylo 118 10GuruMult 118 10GujrKhoj 246 14GranTaml 242",
    "10KndaNandTutg 848 10CakmMymrTale 177 1GeorGlagLatn 1519 3Runr 71 2BuhdHanoTagbTglg 203",
    "2MongPhag 1 1MongPhag 1226 1BengDevaGranKnda 1Deva 1BengDevaGranKnda 1DevaGranKnda 1Deva",
    "2BengDeva 1DevaShrd 1BengDeva 1DevaShrd 1DevaKndaMlymOryaTamlTelu 1Deva 2DevaShrd 2Deva",
    "1DevaShrd 1BengDeva 7Deva 1DevaNand 1BengDeva 2Deva 1BengDeva 4Deva",
    "1BengDevaGranKndaMlymNandOryaSinhTeluTirhTutg 1DevaGran 1DevaGranKndaTutg 2BengDeva 1Beng",
    "2DevaGran 1Nand 197 2Grek 54 1CyrlLatnSyrc 1 1Syrc 564 1LatnMongPhag 31 1AdlmArab 10",
    "1CariGeorGlagHungLyciOrkh 2 1CariGrekHungMero 146 1DevaGranLatn 3366 1CoptLatn 24 1AvstOrkh",
    "1AvstCariGeorHungKthiLydiSamr 10 1Dupl 4 1AdlmArabHung 1 1CyrlGlag 428 16HaniTang 1",
    "1BopoHangHaniHiraKanaMongYiii 1BopoHangHaniHiraKanaMongPhagYiii 1BopoHangHaniHiraKana 2",
    "1Hani 1 2BopoHangHaniHiraKanaMongTibtYiii 2BopoHangHaniHiraKanaLisuMongTibtYiii",
    "6BopoHangHaniHiraKanaYiii 1 1BopoHangHaniHiraKana 8BopoHangHaniHiraKanaYiii",
    "4BopoHangHaniHiraKana 10 4BopoHani 2 1BopoHangHaniHiraKana 5HiraKana 1 1BopoHangHaniHiraKana",
    "4 2HaniHiraKana 2Hani 89 4HiraKana 3 1HiraKana 90 1BopoHangHaniHiraKanaYiii 1HiraKana 147",
    "16Hani 32 38Hani 9 1HaniTang 48 40Hani 56 49Hani 15 12Hani 51 1Hani 88 25Hani 10 5Hani 96",
    "31Hani 29296 1CyrlGlag 144 8HaniLatn 296",
    "3DevaDogrGujrGuruKhojKndaKthiMahjMlymModiNandShrdSindTakrTirhTutg",
    "3DevaDogrGujrGuruKhojKndaKthiMahjModiNandShrdSindTakrTirhTutg",
    "2DevaDogrGujrGuruKhojKthiMahjModiSindTakrTirh",
    "1DevaDogrGujrGuruKhojKthiMahjModiShrdSindTakrTirh",
    "1DevaDogrGujrGuruKhojKthiMahjModiSindTakrTirh 183 1BengDevaTutg 1 1DevaTaml 58 1KaliLatnMymr",
    "160 1BugiJava 21358 2ArabNkoo 178 1ArabThaa 10 1ArabThaa 71 2BopoHangHaniHiraKana 282",
    "5BopoHangHaniHiraKanaYiii 10 1HiraKana 45 2HiraKana 352 2CpmnCprtLinb 1CprtLinb 4",
    "45CprtLinaLinb 3 9CprtLinb 416 28ArabCopt 2038 1ManiOugr 2062 1GranTaml 1 1GranTaml 55",
    "2GranTaml 3219 2GranTaml 1 1GranTaml 40140 4Dupl 5820 18Hani 7902 2Hani 986542"]

/-- Codes have four letters each. -/
def codes : List Char → List String
  | a :: b :: c :: d :: rest => String.ofList [a, b, c, d] :: codes rest
  | _ => []

def set (code : String) : RangeSet :=
  runs.select (fun several => (codes several.toList).contains code) ∪
    (Script.set code ∩ runs.select (·.isEmpty))

end Pipework.Unicode.ScriptExtension
