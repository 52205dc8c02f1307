import ScriptLoader.Pattern.Property.Classification

/-!
# Ages

The age of a character is the version of the standard that first assigned it. The name of a
version stands for the characters that are no younger. A version is marked by a letter for
its first number and a digit for its second one; `X0` marks what no version has assigned.
-/

namespace ScriptLoader.Pattern.Property

/-- The runs of equal age. -/
def ageRuns : String :=
  "dyA14C0uA18C01C21D0iC03D0bD1eE02hA15C02D01bA11C0aA15C0hD01yA19C01C28D05D13D02A11C0dC24E12A1
   2E12X01A13E01A11G04X07A11X01A11X0kA11X018A11E17A11C02C21A11C01A11C01A11C01A11C0iA12C11C25D0
   4D11C0cA11C01uA11C0cA11C015A11E12C02C24C01hA12C22A12C22A12C21E0sA12C08A12D12A16E0gC24E0gE1
   2E22F08G01X012A12X07A11K013A11K01A11C02X02G01F11X0hB01D1dB0aA11E09A11B03D18X0rA14X01K05A1
   bX04D01F11G05E11D11A19D05E11A11F31N01D11A11F0qA15E1jA13C03D06D11F0eA12C220A12C05A11C0fA11C0
   uA12D0aA15C01D0eC01X0uC03D0rC02X03D0uD1iE11dC01C2eX01nE02X03K01aE22X0fE21X0sF02X01F01X0bJ0
   5X0vN01X02N05X01P08N01F11G0bF16G02H01N08I0aM0bN01K0fI01H0rF11G01E23A11D01hA12F0iA11E21F05A1
   1E22F0pA12E15F01G02E22E01D12E01G03A11X08A12X02A12X0mA11X07A11X01A13X04A12X01A11D07A12X02A1
   2X03A11D18X01A14X02A11X05A12X0lA11E22J01K02X01D01A11D01X06A14X02A12X0mA11X07A11X02A11X02A1
   1X02A12X01A11X05A14X02A12X03A13X01E17X04A11X01A17X0fA11E11K0aX03A11X07A11D01A11X03A11X0mA1
   1X07A11X02A11X05A12X0aA11X03A11X03A12X01A1fX01A13D02X0aA11F11D07X01H06J01X03A11X08A12X02A1
   2X0mA11X07A11X02A11X01D04A12X08A11E12X02A12X03A17X01M02A14X02A11X03A12E12X0bA11D06F0aX02A1
   1X06A13X03A11X04A13X02A11X01A11X02A13X02A13X03A13X08A11D13A14X05A13X03A11X04A12X01E16X01A1
   eX01D1cA18D05X01G03A11K08A11X03A11X0nA11X0aA11G05A12X01N01E17A11X03A11X04A17X02A11X02E11H0
   2X01N02X02A12E12X0aA17X01L08E11I01G02A11K08A11X03A11X0nA11X0aA11X05A12X02D07A11X03A11X04A1
   7X02A16X01N01A11X02A12E02X0aA11X02E01O0cX01J01G02A11M08A11X03A11X0nA11F0gA11F02J01E16A11E1
   1X03A11X04A11F01I04X03I01A17I01H02A12E12X0aA16E13I07E11X01M02C01X0iC03X0oC01X09C01X01C02X0
   7C03X01C04X06C01X01C01X08C06X0aG02X03C0cX01mA14X0tA111X02A11X01A11X01L02A11L01A11X01L01A1
   6L04A11L07A11L03A11X01A11X01A12L02A11L0dA11L03A12X05A11X01A11X06A11O01X0aA12X02A12F1wX020B0
   1X0xB01C02E14X0rB04F06B01C01B01X0lB03C07B01C01B03C01X0fC01X01E11C02D13E14E22F011X0yC01E15C0
   1E12C01E17C03E14C06E1qC01sE14E22E112A11X01F15X01F12X013A12C22D11A11D13F12iA15E21wA15E22aA1
   6E27C01D11rC01D11C01X04C02X07C01X01C01X04C02X013C01D11C01X04C02X0vC01D11C01X04C02X07C01X0
   1C01X04C02X07C01D17C01X0nC01D1vC01D11C01X04C02X07C01D113C01D1jC02X02F02D1sC03X0qD16X02dC0
   1H02X06H02X01E2hiC09E2tC03X029C08G07X0dC21N07C21N09X01N0nC29X0kC2cX0dC21X03C21X02C2cX02lC0
   1D02X0aC06X0aD06X0fC01N0aC06X02gC01K07X016C01E15X01yE2aX0tD02G01X0cD04X0cD04X01D03X016D02X0
   5D0bX016D12E24X0qD16X0aD11E23X02D1wD0sD12X02D11rE21X0tE22X0bE26X0aE26X0eE22X0fG02M0eN01dX0
   24E01N01X02P019E02N01P017E13F1cE16F11gF08X04F01kE13X0fE13X01fE19I02P05X017K02X03K08F18X0zE2
   4F11J02G01L05X030D02gD17E0sE1fG04J01N01I01F01E22E04bA11B04E12iA16E1mA12X06A12X012A12X06A1
   2X08A11X01A11X01A11X01A11X0vA12X01hA11X0fA11X0eA12X06A11X0jA12X03A11X09A11X01bA11C0nA11C2
   6C05C22D02D11C27D15C21E11X04F37A11C22X0rA11X05D18F03X0bA11B01B13C02C24D13E21F01F23G01H01J0
   1N0fX0iA12C07C21D14E01E1fX01lA12C01D01D1fC21D12E01E13E21cA11C01E04E11E22H04X02jA19C0cC26qA1
   eC21A11C03dA11C01C2uC01gC22D0bD1cE01E2bF07G04I01J011A12C03P0mX0bA1lX03vA1kC21D046A1aC228A1
   8C08C2kA12D02C21D11C02eA12C0cC22D1aC28D0bD11E12E22D0gD11E0aE13E24E1aE21F0jE21F01E24F0oE21G0
   4A11F04A12F0sA11F0zA11F01A11F04A13F01A11E27A12F07A1eC2vA13F0oA11F0eA11F07D14E01F11E11F12F0
   sC24E1gC274C0e8C2eD06D17E05E14E015E13G05E15E2qG02X0wG01X01M0yG03K0cG01L08G01J0pK04H0fK01L0
   1bD11N01bD11N0dE03E11E23E14E06E12E22zD17E22F15X019D11X01F15X01F12X01iD12F17X01D11F0eX01F0
   nD19X07D11X07D11X07D11X07D11X07D11X07D11X07D11X07D11X0wE1oD14E12D1jE11E2aF17G02I05J05K01L0
   3M0bN0yX0qC01X02hC0cX05yC0qX0cC04O11kA13C03C21C01A11X02cA12C22X06A12C22mA11C25X014A11E11J0
   1K01X02mA11X0gA1oC03F05M0gD1kE12P09X01O1gC2tA12D01X010A1cE21D0fC2sA12D01D11eA1fC2cA14D01bA1
   1L13bA14D02rA12D0vA11D052uC0aM01sD0g4mA1mD18E18E21F19H0lJ05K0dM03N0wdC03X0iC02C2gC01C2cC0
   1C23C01C21C09X01cE28cE1kX0wE12F0iE18F1sE16G01H01F12gE28X0nD14E05E12E02zE12F01H02F02F1cG0aF0
   1F13G01I01K02G06H02K06L02N05L04M03P02X02N01X01N01X05N03P0lX03N02M01G02F11F05E118D11M03X0aE2
   6X01kE08X01xE11I08X0cE16X0sE22H02K02cE1bX01E1tE23X026E21X0bE24X02E2vG01X01jE19X0eE12X0aE1
   2X04E1sE24G01vE2oX05E2nF1aX06F02X06F02X06F09X07F01X07F01X01cG04H02G02L04M04X028H01aE22X0aE2
   6X08mcB0cX0nE24X01dE21l0X0566A12F11nC23E22X02yD112X07A1cX05A15X01C0pA11X05A11X01A11X02A11X0
   2A11X030A1gF01N0gX0a5A1gN01sA12X01iA17X01N0wC1cA11C21D02N0gC2aD16X04A13E17G02H0lA12C22D0aA1
   1X0jA11X04A14X03A11C21A11X03rA12X01A11X02mA12C22mA13X06A12X06A12X06A12X03A13X07A11X07A1aX0
   3C01B13A1cD01X0qD01X0jD01X02D01X0fD02X0eD0yX03fD05X03D04X019D03X09D023D12G02I01X0cE11M03X0
   1G01bX01aE13mX0tE13X01dE1fX0sG04X0vC11G04C19X03J0rC15X017G05X0uD01X01D010D14X0eD116X012C1
   2D012C128D02X0aD06X010I04X010I04X014G08X01gG0bX01G0bN01X0fN01X07N01X02N01X0bN01X0fN01X07N0
   1X02N03X01gP0cX08nG09X0mG0aX08G0oX06N01X016N01X09N01xX06D02X01D01X018D01X02D03X01D02X01D0
   mE21X09E21rG08X09G01cX0jH01X02H05X05H0qE02E23X01E0qE15X01E11sX01kF14X02H02F1gH02X01aH04D1
   1X02D15X08D11X03D11X0rD12K02X03D14X09D11K07X09D17X0wE2wG0wX013G04X0cG09X01iE23X0tE22X0rE2
   5X08E2iG07X04G0cX07G028X021E21jX01fH0dX01fH07X06H014K08X0aK06X012P03X0tP08X02P05sX0vE21X0
   16M01X03M02X02M0gX03P01jX01P03O014K08X016K0mX0qN012X0sM0kX0nL09X026F04X0uF06N09X01G01uE21N0
   aX01K02X0pF17X0aF16X01hF11X0eF13K01M08X013G09X021F14H01G02M0aF11G05H01X0kG0bX0iG01X017G01I0
   3O01qX07H01X01H01X04H01X0fH01X0bH06X01nG05X0aG06X01H03G01X08G02X02G02X0mG01X07G01X02G01X0
   5G01X01K09G02X02G02X03G02X01H06X01G05X07G02X07G03X05G0bX0aP01X01P02X01P01X012P01X0aP01X01P0
   2X01P01X04P01X0aP01X02P08X02P0tX02iI01M01I01X01I01K01L02M0uX020G08X0aG04mX01iG02X0iG0kH0yX0
   1xG0bX0aG06X0dI0jX01kF11L01N06X0aF16X0kP0sX0qH01K02X0fH04X0gH07N055X01oK02sX02bG0cX01G07M0
   2X01M02X08M01X02M01X0uM01X02M02X0cM09X0aM01yX08L02X01aL02X0bL0rX020J08X01gJ02L0nJ01K05J0dX0
   gN01lG07X0aO052X0yP0eX0aP06X09I01X019I01X0eI0aX0tI03X0wI02X0mI01X0eI021X07J01X02J01X018J0
   3X01J01X02J01X09J08X0aJ06X06K01X02K01X011K01X02K01X06K07X0aK08mX0pK07X0hO01X015O03X0sO01P0
   2dX01M0fX01eL0dX01L0ofE016G01H02uX02rE0cG01X04E01G0bX05gH0218X02rN0dX0trE21O09L0tO0aX032zP0
   5X0g7H05a1X01mP01c6X0ftF07X0vG01X0aG04X02G027N01X0aN06X0uG02X06G0aX01yG0aX0aG01X07G01X0lG0
   5X0jG0c0X01mP05iX02jK02tX01xF16L04X01L01bF19L07X0hF11sX01I01J02L01M0bX02M0eX04q5I05K06L08X0
   kzI0dfM015X01P09M06w7X04N01X07N01X02N01X02F07xJ04N0fX01O0tX03L02X01O0eX04L08X0b0J01s4X02zG0
   5X0dG03X09G07X0aG02X08G0318X06yP06X0c4P024X01aN02X0nN09X038N01oX06uC1aX013C12X01E150C1bH0
   2N0lX01yD13eX0kO0cX0kK0cX02fD09X0iE07K03rX02dC11X01zC11X02C12X01C12X02C12X04C11X0cC11X01C1
   1X04C11D02C11X01tC11X04C12X08C11X07C11X0sC11X04C11X05C11X01C13X07C11X09eC12D12X082C12E02X0
   1eC1i4H0fX05H01X0fH0uoX0vN06X06O05xX07I01X0hI02X07I01X02I01X05I05X01qO0xX01O034X019L03X0eL0
   2X0aL04X02L08wX0vN0hX01mL05X01L0cwX016O05yX017P04X01P0dcX07N01X04N01X02N01X0fN01X05hG02X0
   gG015X023I01L04X0aI04X02I0ltX01wK024X01pL05eX04F11X0rF11X02F11X01F12X01F11X0aF11X04F11X01F1
   1X01F16X01F14X01F11X01F11X01F11X03F11X02F11X01F12X01F11X01F11X01F11X01F11X01F11X02F11X01F1
   2X04F11X07F11X04F11X04F11X01F11X0aF11X0hF15X03F11X05F11X0hF11gX02F17iX018E14X02sE1cX0fF02X0
   eF01G01X0fF01X0fF0mG0aX0bE22G03M0vE21K01F01E2bF01E21F01E22F01E23F01E23F05E28F01E27F01E2aF0
   2F11L03M09F01E21F02E22F01E2aF04E22F01E2aF0iI01M01kX0qF01E22F0dX0yE29F01I04X09E27X02F0eX06J0
   4aX0xF0cG03H06F01G01yF01G02H0kF0cG011F01G05F04G05H0cG0hF07G08H01rF01G01F01G052F01G04F02G0
   1H01qF02G04F17G05H0oF0iG01I015G01I02eG05F01F1gF01F13F01F11F01F11F01F11F01F13F01F16F02F14F0
   1F11F02F14F01F1cF02G02H0bF01cG01yF0aG01H02I02J01L02M04X01O03N0dG03X04G03I02J01K01L02M03X0
   38F03O04X05O02dG04K01O06X0cL04X01N0fX0cG04X01kG08X0aG06X014G08X0uG02X02M0aP04X02P01qX0cJ0
   1M03L09H06I01J08I08J01I02J0cI01L0cI01J03K0fI0dJ05K01L01M04K02M01N01K01L04K05H0dI06J0bK02M0
   6L03M02L0aK06L01H02K08L01M01N03L0nJ0pK02cL0cX0eK02X04L01M03O03L02N03X03L04M02O01P05X01P06L0
   jM04N03O07M04N03O01P01O03M03N01P07X02O07M03N02O01P02X01P08N01O01P06X07N02O07X043M01X01jM0
   11P0aM0skX02B0wyfC17M02N0wX0379E24N01O06X066F02X04g2H0eX05rlJ0fX0haO11wiX0f2C115sX02B03t7M0
   5X038gO017imX02B01ekeX02B01ekeX02B01ekeX02B01ekeX02B01ekeX02B01ekeX02B01ekeX02B01ekeX02B0
   1ekeX02B01ekeX02B01X01C1uX02oC13kX06oD01e6mX02t4yB0"

/-- The names of the versions and their marks, the first version first. -/
def versions : List (List String × String) :=
  [
    (["1.1", "v11"], "A1"),
    (["2.0", "v20"], "B0"),
    (["2.1", "v21"], "B1"),
    (["3.0", "v30"], "C0"),
    (["3.1", "v31"], "C1"),
    (["3.2", "v32"], "C2"),
    (["4.0", "v40"], "D0"),
    (["4.1", "v41"], "D1"),
    (["5.0", "v50"], "E0"),
    (["5.1", "v51"], "E1"),
    (["5.2", "v52"], "E2"),
    (["6.0", "v60"], "F0"),
    (["6.1", "v61"], "F1"),
    (["6.2", "v62"], "F2"),
    (["6.3", "v63"], "F3"),
    (["7.0", "v70"], "G0"),
    (["8.0", "v80"], "H0"),
    (["9.0", "v90"], "I0"),
    (["10.0", "v100"], "J0"),
    (["11.0", "v110"], "K0"),
    (["12.0", "v120"], "L0"),
    (["12.1", "v121"], "L1"),
    (["13.0", "v130"], "M0"),
    (["14.0", "v140"], "N0"),
    (["15.0", "v150"], "O0"),
    (["15.1", "v151"], "O1"),
    (["16.0", "v160"], "P0")]

/-- The names and marks of versions, each with the marks of the versions before it. -/
def withEarlier (before : List String) :
    List (List String × String) → List (List String × List String)
  | [] => []
  | (names, mark) :: rest => (names, before ++ [mark]) :: withEarlier (before ++ [mark]) rest

/-- The age. -/
def age : Classification where
  runs := Run.readAll ageRuns
  names := withEarlier [] versions

end ScriptLoader.Pattern.Property
