import ScriptLoader.Pattern.Property.Classification

/-!
# Breaks in texts

The classes of code points by which a text is cut into characters as readers see them,
words and sentences. `Xx` marks the code points that no class has.
-/

namespace ScriptLoader.Pattern.Property

/-- The runs of equal grapheme cluster break. -/
def graphemeRuns : String :=
  "aCn1Lf2Cn1CriCn2nXxxCndXx1CngiXx34Ex7nXx7Ex7bXx19Ex1Xx1Ex1Xx2Ex1Xx2Ex1Xx1Ex1kXx6PpaXxbEx1Xx
   1Cn1aXxlExgXx1Ex2tXx7Ex1Pp1Xx6Ex2Xx2Ex1Xx4ExxXx1Pp1Xx1ExuXxrEx2jXxbEx1mXx9Ex9Xx1ExoXx4Ex1Xx
   9Ex1Xx3Ex1Xx5Ex17Xx3Ex1gXx2Pp5Xx9Ex16XxoEx1PpwEx1Sm1iXx1Ex1Sm1Ex1Xx3Sm8Ex4Sm1Ex2Sm1Xx7ExaXx
   2ExtXx1Ex2Sm1kXx1Ex1Xx1Ex2Sm4Ex2Xx2Sm2Xx2Sm1Ex9Xx1ExaXx2ExqXx1Ex2Xx2Ex1Sm1kXx1Ex1Xx3Sm2Ex
   4Xx2Ex2Xx3Ex3Xx1ExuXx2Ex3Xx1ExbXx2Ex1Sm1kXx1Ex1Xx3Sm5Ex1Xx2Ex1Sm1Xx2Sm1ExkXx2ExmXx6Ex1Xx1Ex
   2Sm1kXx1Ex1Xx2Ex1Sm4Ex2Xx2Sm2Xx2Sm1Ex7Xx3ExaXx2ExuXx1Ex1nXx1Ex1Sm1Ex2Sm3Xx3Sm1Xx3Sm1Ex9Xx
   1Ex14Xx1Ex3Sm1Ex1jXx1Ex1Xx3Ex4Sm1Xx3Ex1Xx4Ex7Xx2ExbXx2ExtXx1Ex2Sm1kXx1Ex1Xx1Sm2Ex1Sm1Ex2Sm
   1Xx3Ex1Xx4Ex7Xx2ExbXx2ExfXx1SmcXx2Ex2Sm1jXx2Ex1Xx1Ex2Sm4Ex1Xx3Sm1Xx3Sm1Ex1Pp8Xx1ExaXx2ExtXx
   1Ex2Sm1yXx1Ex4Xx1Ex2Sm3Ex1Xx1Ex1Xx7Sm1ExiXx2Sm1pXx1Ex1Xx1Sm7ExcXx8Ex2qXx1Ex1Xx1Sm9ExbXx7Ex
   21Xx2ExrXx1Ex1Xx1Ex1Xx1Ex4Xx2Sm1dXxeEx1Sm5Ex1Xx2Ex5XxbEx1Xx10Ex9Xx1Ex2uXx4Ex1Sm6Ex1Xx2Ex2Sm
   2ExnXx2Sm2Ex4Xx3ExgXx4ExdXx1Ex1Xx1Sm2Ex6Xx1ExfXx1Ex2qXx2oLa20Va2gTa9pXx3ExqaXx4ExsXx3ExtXx
   2ExuXx2Ex1sXx2Ex1Sm7Ex8Sm1Ex2SmbEx9Xx1Ex19Xx3Ex1Cn1Ex39Xx2ExyXx1Ex3aXx3Ex4Sm2Ex3Sm4Xx2Sm1Ex
   6Sm3Ex63Xx2Ex2Sm1Ex1lXx1Sm1Ex1Sm7Ex1Xx1Ex1Xx1Ex2Xx8Ex6SmaEx2Xx1Ex1cXxvEx1dXx4Ex1Sm1bXxaEx
   4Sm3Ex12Xx9ExcXx2Ex1SmuXx1Sm4Ex2Sm6Ex1kXx1Ex1Sm2Ex3Sm1Ex1Sm5Ex1cXx8Sm8Ex2Sm2Ex48Xx3Ex1XxdEx
   1Sm7Ex4Xx1Ex6Xx1Ex2Xx1Sm2Ex5iXx1sExejXx1Cn1Ex1Zw2CnoXx7Cn1dXxgCn2oXxxEx2daXx3Ex3xXx1Ex2oXx
   wExfeXx6Ex2xXx2Exn9wXx4Ex1XxaExwXx2Ex28Xx2Ex7kXx1Ex3Xx1Ex4Xx1ExnXx2Sm2Ex1Sm4Xx1Ex2bXx2Sm
   1eXxgSm2ExqXxiExdXx1Ex12Xx8ExpXxbEx1Sm1ExcXxtLa3Xx3Ex1Sm1bXx1Ex2Sm4Ex2Sm2Ex2Sm1Ex10Xx1Ex
   1vXx6Ex2Sm2Ex2Sm2ExcXx1Ex8Xx1Ex1Sm1aXx1Ex1fXx1Ex1Xx3Ex2Xx2Ex5Xx2Ex1Xx1Ex15Xx1Sm2Ex2Sm5Xx1Sm
   1Ex6kXx2Sm1Ex2Sm1Ex2Sm1Xx1Sm1ExiXx1LvrLt1LvrLt1LvrLt1LvrLt1LvrLt1LvrLt1LvrLt1LvrLt1LvrLt1Lv
   rLt1LvrLt1LvrLt1LvrLt1LvrLt1LvrLt1LvrLt1LvrLt1LvrLt1LvrLt1LvrLt1LvrLt1LvrLt1LvrLt1LvrLt1Lv
   rLt1LvrLt1LvrLt1LvrLt1LvrLt1LvrLt1LvrLt1LvrLt1LvrLt1LvrLt1LvrLt1LvrLt1LvrLt1LvrLt1LvrLt1Lv
   rLt1LvrLt1LvrLt1LvrLt1LvrLt1LvrLt1LvrLt1LvrLt1LvrLt1LvrLt1LvrLt1LvrLt1LvrLt1LvrLt1LvrLt1Lv
   rLt1LvrLt1LvrLt1LvrLt1LvrLt1LvrLt1LvrLt1LvrLt1LvrLt1LvrLt1LvrLt1LvrLt1LvrLt1LvrLt1LvrLt1Lv
   rLt1LvrLt1LvrLt1LvrLt1LvrLt1LvrLt1LvrLt1LvrLt1LvrLt1LvrLt1LvrLt1LvrLt1LvrLt1LvrLt1LvrLt1Lv
   rLt1LvrLt1LvrLt1LvrLt1LvrLt1LvrLt1LvrLt1LvrLt1LvrLt1LvrLt1LvrLt1LvrLt1LvrLt1LvrLt1LvrLt1Lv
   rLt1LvrLt1LvrLt1LvrLt1LvrLt1LvrLt1LvrLt1LvrLt1LvrLt1LvrLt1LvrLt1LvrLt1LvrLt1LvrLt1LvrLt1Lv
   rLt1LvrLt1LvrLt1LvrLt1LvrLt1LvrLt1LvrLt1LvrLt1LvrLt1LvrLt1LvrLt1LvrLt1LvrLt1LvrLt1LvrLt1Lv
   rLt1LvrLt1LvrLt1LvrLt1LvrLt1LvrLt1LvrLt1LvrLt1LvrLt1LvrLt1LvrLt1LvrLt1LvrLt1LvrLt1LvrLt1Lv
   rLt1LvrLt1LvrLt1LvrLt1LvrLt1LvrLt1LvrLt1LvrLt1LvrLt1LvrLt1LvrLt1LvrLt1LvrLt1LvrLt1LvrLt1Lv
   rLt1LvrLt1LvrLt1LvrLt1LvrLt1LvrLt1LvrLt1LvrLt1LvrLt1LvrLt1LvrLt1LvrLt1LvrLt1LvrLt1LvrLt1Lv
   rLt1LvrLt1LvrLt1LvrLt1LvrLt1LvrLt1LvrLt1LvrLt1LvrLt1LvrLt1LvrLt1LvrLt1LvrLt1LvrLt1LvrLt1Lv
   rLt1LvrLt1LvrLt1LvrLt1LvrLt1LvrLt1LvrLt1LvrLt1LvrLt1LvrLt1LvrLt1LvrLt1LvrLt1LvrLt1LvrLt1Lv
   rLt1LvrLt1LvrLt1LvrLt1LvrLt1LvrLt1LvrLt1LvrLt1LvrLt1LvrLt1LvrLt1LvrLt1LvrLt1LvrLt1LvrLt1Lv
   rLt1LvrLt1LvrLt1LvrLt1LvrLt1LvrLt1LvrLt1LvrLt1LvrLt1LvrLt1LvrLt1LvrLt1LvrLt1LvrLt1LvrLt1Lv
   rLt1LvrLt1LvrLt1LvrLt1LvrLt1LvrLt1LvrLt1LvrLt1LvrLt1LvrLt1LvrLt1LvrLt1LvrLt1LvrLt1LvrLt1Lv
   rLt1LvrLt1LvrLt1LvrLt1LvrLt1LvrLt1LvrLt1LvrLt1LvrLt1LvrLt1LvrLt1LvrLt1LvrLt1LvrLt1LvrLt1Lv
   rLt1LvrLt1LvrLt1LvrLt1LvrLt1LvrLt1LvrLt1LvrLt1LvrLt1LvrLt1LvrLt1LvrLt1LvrLt1LvrLt1LvrLt1Lv
   rLt1LvrLt1LvrLt1LvrLt1LvrLt1LvrLt1LvrLt1LvrLt1LvrLt1LvrLt1LvrLt1LvrLt1LvrLt1LvrLt1LvrLt1Lv
   rLt1LvrLt1LvrLt1LvrLt1LvrLt1LvrLt1LvrLt1LvrLt1LvrLt1LvrLt1LvrLt1LvrLt1LvrLt1LvrLt1LvrLt1Lv
   rLt1LvrLt1LvrLt1LvrLt1LvrLt1LvrLt1LvrLt1LvrLt1LvrLt1LvrLt1LvrLt1LvrLt1LvrLt1LvrLt1LvrLt1Lv
   rLt1LvrLt1LvrLt1LvrLt1LvrLt1LvrLt1LvrLt1LvrLt1LvrLt1LvrLt1LvrLt1LvrLt1LvrLt1LvrLt1LvrLt1Lv
   rLt1LvrLt1LvrLt1LvrLt1LvrLt1LvrLt1LvrLt1LvrLt1LvrLt1LvrLt1LvrLt1LvrLt1LvrLt1LvrLt1LvrLt1Lv
   rLt1LvrLt1LvrLt1LvrLt1LvrLt1LvrLt1LvrLt1LvrLt1LvrLt1LvrLt1LvrLt1LvrLt1LvrLt1LvrLt1LvrLt1Lv
   rLt1LvrLt1LvrLt1LvrLt1LvrLt1LvrLt1LvrLt1LvrLt1LvrLt1LvrLt1LvrLt1LvrLt1LvrLt1LvrLt1LvrLt1Lv
   rLt1LvrLt1LvrLt1LvrLt1LvrLt1LvrLt1LvrLt1LvrLt1LvrLt1LvrLt1LvrLt1LvrLt1LvrLt1LvrLt1LvrLtcXx
   nVa4Xx1dTa6xuXx1ExkhXxgExgXxgEx5rXx1Cn4eXx2Ex28XxcCne9Xx1Ex6aXx1Ex45Xx5Ex1aeXx3Ex1Xx2Ex5Xx
   4Ex14Xx3Ex4Xx1Ex4lXx2ExfxXx4Ex1tXx5Ex8tXx2Ex27Xx4Ex1yXxbEx1dXx4Ex3eXx1Sm1Ex1Sm1hXxfEx15Xx
   1Ex2Xx2ExaXx3Ex1Sm19Xx3Sm4Ex2Sm2Ex2Xx1Pp4Xx1ExaXx1Pp1eXx3Ex10Xx5Ex1Sm8ExgXx2Sm18Xx1ExcXx2Ex
   1Sm1cXx3Sm9Ex1Sm1Ex1Xx2Pp5Xx4Ex1Xx1Sm1Ex2kXx3Sm3Ex2Sm4Ex6Xx1Ex2Xx1Ex4dXx1Ex3Sm8ExlXx2Ex2Sm
   1jXx2Ex1Xx1Ex1Sm1Ex4Sm2Xx2Sm2Xx2Sm1Ex9Xx1ExaXx2Sm2Xx7Ex3Xx5Ex1vXx1Ex2Sm6Ex1Xx1Ex2Xx1Ex1Xx
   3Ex1Sm1Xx2Sm3Ex1Pp1ExeXx2Ex2aXx3Sm8Ex2Sm3Ex1Sm1ExnXx1Ex29Xx1Ex2Sm6Ex1Sm1Ex2Sm1Ex1Sm2Ex1Sm
   2Ex6jXx1Ex2Sm4Ex2Xx4Sm2Ex1Sm2ExrXx2Ex2aXx3Sm8Ex2Sm1Ex1Sm2Ex2yXx1Ex1Sm1Ex2Sm8Ex2tXx1Ex1Sm1Ex
   2Xx4Ex1Sm5Ex74Xx3Sm9Ex1Sm2Ex6tXx1Ex5Sm1Xx2Sm2Xx4Ex1Pp1Sm1Pp1Sm1Ex3xXx3Sm4Ex2Xx2Ex4Sm1Ex3Xx
   1SmsXxaEx14Xx6Ex1Sm1Pp4Ex8Xx1Ex9Xx6Ex2Sm3Ex14Xx6PpdEx1Sm2Exb9Xx1Sm7Ex1Xx6Ex1Sm1Ex2aXxmEx1Xx
   1Sm7Ex1Sm2Ex1Sm2Ex3eXx6Ex3Xx1Ex1Xx2Ex1Xx7Ex1Pp1Ex1uXx5Sm1Xx2Ex1Xx2Sm1Ex1Sm1Ex9nXx2Ex2Sm9Xx
   2Ex1Pp1Sm1cXx2Sm5Ex3Xx2Sm3ExnXx1Ex445XxgCn1Ex6XxfEx8ugXxcEx3Sm3Ex1xcXx5Ex1nXx7ExfgXx1Va3Xx
   4VadgXx1Ex1Xx1jSm7Xx4Ex29Xx1ExbXx2Exf57Xx2Ex1Xx4Cn3mkXx1aEx2XxnExf2Xx5Ex3Xx6Ex8Cn8Ex2Xx7Ex
   uXx4Ex44Xx3Ex1izXx1jEx4Xx1eEx8Xx1ExeXx1ExmXx5Ex1XxfEx11sXx7Ex1XxhEx2Xx7Ex1Xx2Ex1Xx5Ex2sXx
   1Ex4gXx7ExafXx1Ex1pXx4Exe4Xx4Ex72Xx2ExkgXx7Ex31Xx7Ex1p7XxqRie3Xx5Exgx6oXxwCn2oEx3kCn6oEx
   2s0Cn44jkXx"

/-- The classes between which a text is cut into graphemes. -/
def graphemeBreak : Classification where
  runs := Run.readAll graphemeRuns
  names := [
    (["cr"], ["Cr"]),
    (["control", "cn"], ["Cn"]),
    (["extend", "ex"], ["Ex"]),
    (["l"], ["La"]),
    (["lf"], ["Lf"]),
    (["lv"], ["Lv"]),
    (["lvt"], ["Lt"]),
    (["prepend", "pp"], ["Pp"]),
    (["regionalindicator", "ri"], ["Ri"]),
    (["spacingmark", "sm"], ["Sm"]),
    (["t"], ["Ta"]),
    (["v"], ["Va"]),
    (["zwj"], ["Zw"])]

/-- The runs of equal word break. -/
def wordRuns : String :=
  "aXx1Lf2Nl1CriXx1Ws1Xx1Dq4Xx1Sq4Xx1Mn1Xx1Mb1XxaNu1Ml1Mn5XxqLe4Xx1En1XxqLeaXx1Nl10Xx1Le2Xx1Fo
   7Xx1Le1Xx1Ml2Xx1Le5XxnLe1XxvLe1XxdcLe6XxyLe34Ex5Le1Xx2Le2Xx4Le1Mn1Le6Xx1Le1Ml3Le1Xx1Le1Xx
   kLe1Xx2bLe1Xx3vLe1Xx7Ex4mLe1Xx12Le2Xx4Le1Xx1Le1Ml15Le1Mn1Le6Xx19Ex1Xx1Ex1Xx2Ex1Xx2Ex1Xx1Ex
   8XxrHl4Xx4Hl1Le1MlbXx6Nu6Xx2Mn2XxbEx1Xx1Fo3Xx17LelExaNu1Xx1Nu1Mn1Xx2Le1Ex2rLe1Xx1Le7Ex1Nu
   1Xx6Ex2Le2Ex1Xx4Ex2LeaNu3Le2Xx1LefXx2Le1ExuLerEx2Xx2hLebEx1LeeXxaNuxLe9Ex2Le2Xx1Mn1Xx1Le2Xx
   1Ex2XxmLe4Ex1Le9Ex1Le3Ex1Le5ExiXxpLe3Ex4XxbLe5XxoLe1Xx6Le1Xx2Nu5Xx9Ex16LeoEx1NuxEx1iLe3Ex
   1LeiEx1Le7ExaLe2Ex2XxaNu1XxgLe3Ex1Xx8Le2Xx2Le2XxmLe1Xx7Le1Xx1Le3Xx4Le2Xx1Ex1Le7Ex2Xx2Ex2Xx
   3Ex1Le8Xx1Ex4Xx2Le1Xx3Le2Ex2XxaNu2LeaXx1Le1Xx1Ex2Xx3Ex1Xx6Le4Xx2Le2XxmLe1Xx7Le1Xx2Le1Xx2Le
   1Xx2Le2Xx1Ex1Xx5Ex4Xx2Ex2Xx3Ex3Xx1Ex7Xx4Le1Xx1Le7XxaNu2Ex3Le1ExbXx3Ex1Xx9Le1Xx3Le1XxmLe1Xx
   7Le1Xx2Le1Xx5Le2Xx1Ex1Le8Ex1Xx3Ex1Xx3Ex2Xx1LefXx2Le2Ex2XxaNu9Xx1Le6Ex1Xx3Ex1Xx8Le2Xx2Le2Xx
   mLe1Xx7Le1Xx2Le1Xx5Le2Xx1Ex1Le7Ex2Xx2Ex2Xx3Ex7Xx3Ex4Xx2Le1Xx3Le2Ex2XxaNu1Xx1LegXx1Ex1Le1Xx
   6Le3Xx3Le1Xx4Le3Xx2Le1Xx1Le1Xx2Le3Xx2Le3Xx3Le3XxcLe4Xx5Ex3Xx3Ex1Xx4Ex2Xx1Le6Xx1ExeXxaNugXx
   5Ex8Le1Xx3Le1XxnLe1XxgLe2Xx1Ex1Le7Ex1Xx3Ex1Xx4Ex7Xx2Ex1Xx3Le2Xx1Le2Xx2Le2Ex2XxaNugXx1Le3Ex
   1Xx8Le1Xx3Le1XxnLe1XxaLe1Xx5Le2Xx1Ex1Le7Ex1Xx3Ex1Xx4Ex7Xx2Ex6Xx2Le1Xx2Le2Ex2XxaNu1Xx2Le1Ex
   cXx4Ex9Le1Xx3Le1Xx15Le2Ex1Le7Ex1Xx3Ex1Xx4Ex1Le5Xx3Le1Ex7Xx3Le2Ex2XxaNuaXx6Le1Xx3Ex1XxiLe3Xx
   oLe1Xx9Le1Xx1Le2Xx7Le3Xx1Ex4Xx6Ex1Xx1Ex1Xx8Ex6XxaNu2Xx2Ex1pXx1Ex2Xx7ExcXx8Ex1XxaNu2fXx1Ex
   2Xx9ExbXx7Ex1XxaNu12Xx1LenXx2Ex6XxaNubXx1Ex1Xx1Ex1Xx1Ex4Xx2Ex8Le1Xx10Le4XxkEx1Xx2Ex5LebEx
   1Xx10Ex9Xx1Ex2sXxkEx1XxaNucXx4Ex4Xx3Ex1Xx3Ex2Xx7Ex3Xx4ExdXxcEx1Xx1ExaNu4Ex2Xx12Le1Xx1Le5Xx
   1Le2Xx17Le1Xx99Le1Xx4Le2Xx7Le1Xx1Le1Xx4Le2Xx15Le1Xx4Le2XxxLe1Xx4Le2Xx7Le1Xx1Le1Xx4Le2XxfLe
   1Xx1lLe1Xx4Le2Xx1vLe2Xx3ExwXxgLegXx2eLe2Xx6Le3Xxh8Le2XxhLe1WsqLe5Xx23Le3XxbLe7XxiLe4Ex9Xx
   jLe3ExbXxiLe2ExcXxdLe1Xx3Le1Xx2Ex1sXxwEx9Xx1Ex2XxaNuxXx3Ex1Fo1ExaNu6Xx2hLe7Xx5Le2ExyLe1Ex
   1Le5Xx1yLeaXxvLe1XxcEx4XxcExaXxaNu3kXxbNu11XxnLe5Ex1lXxaEx1XxtEx2Xx1ExaNu6XxaNumXxvEx1dXx
   5Ex1bLehEx8Le3XxaNuhXx9ExcXx3ExuLedEx2LeaNu18LeeExcXx10LekEx8XxaNu3Xx3LeaNu10Le2XxbLe5Xx
   17Le2Xx3LegXx3Ex1XxlEx4Le1Ex6Le1Ex2Le3Ex1Le5Xx5cLe1sEx7qLe2Xx6Le2Xx12Le2Xx6Le2Xx8Le1Xx1Le
   1Xx1Le1Xx1Le1XxvLe2Xx1hLe1Xx7Le1Xx1Le3Xx3Le1Xx7Le3Xx4Le2Xx6Le4XxdLe5Xx3Le1Xx7Le3Xx7Ws1Xx3Ws
   1Xx1Ex1Zw2Fo8Xx2MbaXx1Mb2Xx1Ml2Nl5Fo1EnfXx2En3Xx1MnfXx1EnaXx1Ws5Fo1XxaFo1Xx1LedXx1LegXxdLe
   1fXxxExhXx1Le4Xx1Le2XxaLe1Xx1Le3Xx5Le6Xx1Le1Xx1Le1Xx1Le1Xx4Le1XxbLe2Xx4Le5Xx5Le4Xx1LehXx
   15LemlXx1gLe1eeXx6dLe6Xx4Le3Ex2LecXx12Le1Xx1Le5Xx1Le2Xx1kLe7Xx1LefXx1ExnLe9Xx7Le1Xx7Le1Xx
   7Le1Xx7Le1Xx7Le1Xx7Le1Xx7Le1Xx7Le1XxwEx1bXx1LecwXx1Ws4Xx1Le10Xx6Ex1Xx5Ka5Xx2Le2kXx2Ex2Ka3Xx
   2jKa1Xx4Ka5Xx17Le1Xx2mLehXxwLe1cXxgKa5sXx1bKa1Xx2gKalgoXxwdLe1vXx1aLe2Xx7hLe3XxgLeaNu2LekXx
   1bLe4Ex1XxaEx1XxvLe2Ex28Le2ExmXx5iLe2Xx2Le1Xx1Le1Xx8LelXxgLe1Ex3Le1Ex4Le1ExnLe5Ex4Xx1ExjXx
   1gLecXx2Ex1eLeiExaXxaNu6XxiEx6Le3Xx1Le1Xx2Le1ExaNusLe8Ex2XxnLedExcXxtLe3Xx4Ex1bLeeExeXx1Le
   aNubXx1ExaXxaNu6Xx15LeeEx9Xx3Le1Ex8Le2Ex2XxaNuxXx3Ex1eXx1Ex1Xx3Ex2Xx2Ex5Xx2Ex1Xx1ExuXxbLe
   5Ex2Xx3Le2ExaXx6Le2Xx6Le2Xx6Le9Xx7Le1Xx7Le1Xx1mLe6Xx37Le8Ex1Xx2Ex2XxaNu6Xx8mcLecXxnLe4Xx
   1dLe6x0Xx7LecXx5Le5Xx1Hl1ExaHl1XxdHl1Xx5Hl1Xx1Hl1Xx2Hl1Xx2Hl1XxaHl2qLexXxa3LeiXx1sLe2Xx1iLe
   14XxcLe4XxgEx3Xx1MlcXxgEx3Xx2EnoXx3En1Mn1Xx1Mb1Xx1Mn1MlqXx5Le1Xx3rLe2Xx1Fo7Xx1Mb4Xx1Mn1Xx
   1Mb1XxaNu1Ml1Mn5XxqLe4Xx1En1XxqLebXx1kKa2ExvLe3Xx6Le2Xx6Le2Xx6Le2Xx3LesXx3Fo4XxcLe1XxqLe1Xx
   jLe1Xx2Le1XxfLe2XxeLeyXx3fLe1xXx1hLe3sXx1Ex3mXxtLe3Xx1dLefXx1ExvXxwLedXxuLe5Xx12Le5Ex5XxuLe
   2Xx10Le4Xx8Le1Xx5Le16Xx4eLe2XxaNu6Xx10Le4Xx10Le4Xx14Le8Xx1gLecXxbLe1XxfLe1Xx7Le1Xx2Le1XxbLe
   1XxfLe1Xx7Le1Xx2Le3Xx1gLecXx8nLe9XxmLeaXx8LeoXx6Le1Xx16Le1Xx9Le1xXx6Le2Xx1Le1Xx18Le1Xx2Le
   3Xx1Le2XxnLeaXxnLe9XxvLe1tXxjLe1Xx2LeaXxmLeaXxqLe1yXx1kLe6Xx2Le1sXx1Le3Ex1Xx2Ex5Xx4Ex4Le1Xx
   3Le1XxtLe2Xx3Ex4Xx1ExwXxtLe3XxtLezXx8Le1XxsLe2ExpXx1iLeaXxmLeaXxjLedXxiLe32Xx21Le1jXx1fLe
   dXx1fLedXx10Le4Ex8XxaNu6XxaNusLe3Xx5Ex1XxnLe6yXx16Le1Xx2Ex3Xx2LegXx3Le1jXx4ExtLeaXx1Le8Xx
   mLebExvXxiLe4Ex16XxlLerXxnLe9Xx3Ex1hLefExvXxaNu1Ex2Le2Ex1Le9Xx4Ex19LebEx2Xx1Nu4Xx1ExaXx1Nu
   2XxpLe7XxaNu6Xx3Ex10LeeEx1XxaNu4Xx1Le2Ex1Le8XxzLe1Ex2Xx1Le9Xx3Ex1cLeeEx4Le4Xx4Ex1Xx2ExaNu
   1Le1Xx1LezXxiLe1XxpLecEx6Xx1Ex2Le1Ex1qXx7Le1Xx1Le1Xx4Le1XxfLe1XxaLe7Xx1bLecEx5XxaNu6Xx4Ex
   1Xx8Le2Xx2Le2XxmLe1Xx7Le1Xx2Le1Xx5Le1Xx2Ex1Le7Ex2Xx2Ex2Xx3Ex2Xx1Le6Xx1Ex5Xx5Le2Ex2Xx7Ex3Xx
   5ExbXxaLe1Xx1Le2Xx1Le1Xx12Le1Xx1Le9Ex1Xx1Ex2Xx1Ex1Xx4Ex1Xx5Ex1Le1Ex1LedXx2ExtXx1hLeiEx4Le
   5XxaNu4Xx1Ex3LeuXx1cLekEx2Le1Xx1Le8XxaNu4mXx1bLe7Ex2Xx9ExnXx4Le2ExyXx1cLehEx3Xx1LebXxaNu
   12Xx17LedEx1Le7XxaNu6XxkNu1lXxfEx4XxaNu5iXx18LefEx2tXx1sLeaNulXx8Le2Xx1Le2Xx8Le1Xx2Le1XxoLe
   6Ex1Xx2Ex2Xx4Ex1Le1Ex1Le2ExcXxaNu1yXx8Le2Xx13Le7Ex2Xx7Ex1Le1Xx1Le1ExrXx1LeaEx14Le7Ex1Le4Ex
   8Xx1Ex8Xx1LebEx1aLegEx3Xx1LeiXx21Le5jXxxLefXxaNu6Xx9Le1Xx11Le8Ex1Xx8Ex1LefXxaNuoXxuLe2XxmEx
   1XxeEx21Xx7Le1Xx2Le1Xx12Le6Ex3Xx1Ex1Xx2Ex1Xx7Ex1Le1Ex8XxaNu6Xx6Le1Xx2Le1XxwLe5Ex1Xx2Ex1Xx
   5Ex1Le7XxaNu8mXxjLe4Ex9Xx2Ex1Le1ExdLe1XxyLe7Ex3Xx5ExdXxaNu1Ex2dXx1Le27XxpmLe2uXx33LehXx5gLe
   218Xx2pLefXxtsLegFo1Ex6LefExaXx32zLe5Xxg7Le5a1XxuLeiExaNu1c6XxftLe7XxvLe1XxaNu6Xx27Le1XxaNu
   6XxuLe2Xx5ExbXx1cLe7Ex9Xx4LecXxaNu9XxlLe5XxjLec0Xx19Le3XxaNu5iXx1sLe3kXx23Le4Xx1Ex1Le1jEx
   7Xx4ExdLe1sXx2Le1Xx1Le1ExbXx2Excn2Xx4Ka1Xx7Ka1Xx2Ka1Xx1Ka7zXx3Ka1eXx1KaeXx4Ka23cXx2zLe5Xx
   dLe3Xx9Le7XxaLe3Xx2Ex1Xx4Fo37wXxaNueeXx1aEx2XxnExf2Xx5Ex3Xx6Ex8Fo8Ex2Xx7ExuXx4Ex44Xx3ExcbXx
   2dLe1Xx1zLe1Xx2Le2Xx1Le2Xx2Le2Xx4Le1XxcLe1Xx1Le1Xx7Le1Xx1tLe1Xx4Le2Xx8Le1Xx7Le1XxsLe1Xx4Le
   1Xx5Le1Xx1Le3Xx7Le1Xx9gLe2XxpLe1XxpLe1XxvLe1XxpLe1XxvLe1XxpLe1XxvLe1XxpLe1XxvLe1XxpLe1Xx8Le
   2Xx1eNue8Xx1jEx4Xx1eEx8Xx1ExeXx1ExmXx5Ex1XxfExuoXxvLe6Xx6Le5xXx7Ex1XxhEx2Xx7Ex1Xx2Ex1Xx5Ex
   5Xx1qLexXx1Ex34Xx19Le3Xx7Ex7Le2XxaNu4Xx1Le8xXxuLe1ExhXx18Le4ExaNud2XxsLe4ExaNu5yXxuLe2Ex1Le
   aNudhXx7Le1Xx4Le1Xx2Le1XxfLe1Xx5hLebXx7Ex15Xx1wLe7Ex1Le4XxaNux2Xx4Le1XxrLe1Xx2Le1Xx1Le2Xx
   1Le1XxaLe1Xx4Le1Xx1Le1Xx1Le6Xx1Le4Xx1Le1Xx1Le1Xx1Le1Xx3Le1Xx2Le1Xx1Le2Xx1Le1Xx1Le1Xx1Le1Xx
   1Le1Xx1Le1Xx2Le1Xx1Le2Xx4Le1Xx7Le1Xx4Le1Xx4Le1Xx1Le1XxaLe1XxhLe5Xx3Le1Xx5Le1XxhLehgXxqLe6Xx
   qLe6XxqLe2kXxqRie3Xx5Ex1kgXxaNugvlzXx1FouXx2oEx3kXx6oEx47bkXx"

/-- The classes between which a text is cut into words. -/
def wordBreak : Classification where
  runs := Run.readAll wordRuns
  names := [
    (["aletter", "le"], ["Le"]),
    (["cr"], ["Cr"]),
    (["doublequote", "dq"], ["Dq"]),
    (["extend"], ["Ex"]),
    (["extendnumlet", "ex"], ["En"]),
    (["format", "fo"], ["Fo"]),
    (["hebrewletter", "hl"], ["Hl"]),
    (["katakana", "ka"], ["Ka"]),
    (["lf"], ["Lf"]),
    (["midletter", "ml"], ["Ml"]),
    (["midnum", "mn"], ["Mn"]),
    (["midnumlet", "mb"], ["Mb"]),
    (["newline", "nl"], ["Nl"]),
    (["numeric", "nu"], ["Nu"]),
    (["regionalindicator", "ri"], ["Ri"]),
    (["singlequote", "sq"], ["Sq"]),
    (["wsegspace"], ["Ws"]),
    (["zwj"], ["Zw"])]

/-- The runs of equal sentence break. -/
def sentenceRuns : String :=
  "9Xx1Sp1Lf2Sp1CriXx1Sp1St1Cl4Xx3Cl2Xx2Sc1At1XxaNu2Sc3Xx1St1XxqUp1Cl1Xx1Cl3XxqLo1Cl1Xx1Cl7Xx
   1SeqXx1Sp9Xx1Lo1Cl1Xx1Fo7Xx1Lo4Xx1Lo1Cl4XxnUp1Xx7UpoLo1Xx8Lo1Up1Lo1Up1Lo1Up1Lo1Up1Lo1Up1Lo
   1Up1Lo1Up1Lo1Up1Lo1Up1Lo1Up1Lo1Up1Lo1Up1Lo1Up1Lo1Up1Lo1Up1Lo1Up1Lo1Up1Lo1Up1Lo1Up1Lo1Up1Lo
   1Up1Lo1Up1Lo1Up1Lo1Up1Lo1Up1Lo1Up1Lo1Up1Lo1Up2Lo1Up1Lo1Up1Lo1Up1Lo1Up1Lo1Up1Lo1Up1Lo1Up1Lo
   1Up2Lo1Up1Lo1Up1Lo1Up1Lo1Up1Lo1Up1Lo1Up1Lo1Up1Lo1Up1Lo1Up1Lo1Up1Lo1Up1Lo1Up1Lo1Up1Lo1Up1Lo
   1Up1Lo1Up1Lo1Up1Lo1Up1Lo1Up1Lo1Up1Lo1Up1Lo1Up1Lo1Up1Lo2Up1Lo1Up1Lo1Up3Lo2Up1Lo1Up1Lo2Up1Lo
   3Up2Lo4Up1Lo2Up1Lo3Up3Lo2Up1Lo2Up1Lo1Up1Lo1Up1Lo2Up1Lo1Up2Lo1Up1Lo2Up1Lo3Up1Lo1Up1Lo2Up2Lo
   1Le1Up3Lo4Le2Up1Lo2Up1Lo2Up1Lo1Up1Lo1Up1Lo1Up1Lo1Up1Lo1Up1Lo1Up1Lo1Up1Lo1Up2Lo1Up1Lo1Up1Lo
   1Up1Lo1Up1Lo1Up1Lo1Up1Lo1Up1Lo1Up1Lo1Up2Lo2Up1Lo1Up1Lo3Up1Lo1Up1Lo1Up1Lo1Up1Lo1Up1Lo1Up1Lo
   1Up1Lo1Up1Lo1Up1Lo1Up1Lo1Up1Lo1Up1Lo1Up1Lo1Up1Lo1Up1Lo1Up1Lo1Up1Lo1Up1Lo1Up1Lo1Up1Lo1Up1Lo
   1Up1Lo1Up1Lo1Up1Lo1Up1Lo1Up1Lo1Up1Lo1Up1Lo1Up1Lo1Up7Lo2Up1Lo2Up2Lo1Up1Lo4Up1Lo1Up1Lo1Up1Lo
   1Up1Lo1Up1xLo1Le10Lo7Le2Lo4XxcLeeXx5Lo7Xx1Le1Xx1LehXx34Ex1Up1Lo1Up1Lo1Le1Xx1Up1Lo2Xx4Lo1Sc
   1Up6Xx1Up1Xx3Up1Xx1Up1Xx2Up1LohUp1Xx9UpzLo1Up2Lo3Up3Lo1Up1Lo1Up1Lo1Up1Lo1Up1Lo1Up1Lo1Up1Lo
   1Up1Lo1Up1Lo1Up1Lo1Up1Lo1Up1Lo1Up5Lo1Up1Lo1Xx1Up1Lo2Up2Lo1fUp1cLo1Up1Lo1Up1Lo1Up1Lo1Up1Lo
   1Up1Lo1Up1Lo1Up1Lo1Up1Lo1Up1Lo1Up1Lo1Up1Lo1Up1Lo1Up1Lo1Up1Lo1Up1Lo1Up1Lo1Up1Lo1Xx7Ex1Up1Lo
   1Up1Lo1Up1Lo1Up1Lo1Up1Lo1Up1Lo1Up1Lo1Up1Lo1Up1Lo1Up1Lo1Up1Lo1Up1Lo1Up1Lo1Up1Lo1Up1Lo1Up1Lo
   1Up1Lo1Up1Lo1Up1Lo1Up1Lo1Up1Lo1Up1Lo1Up1Lo1Up1Lo1Up1Lo1Up1Lo1Up1Lo2Up1Lo1Up1Lo1Up1Lo1Up1Lo
   1Up1Lo1Up1Lo1Up2Lo1Up1Lo1Up1Lo1Up1Lo1Up1Lo1Up1Lo1Up1Lo1Up1Lo1Up1Lo1Up1Lo1Up1Lo1Up1Lo1Up1Lo
   1Up1Lo1Up1Lo1Up1Lo1Up1Lo1Up1Lo1Up1Lo1Up1Lo1Up1Lo1Up1Lo1Up1Lo1Up1Lo1Up1Lo1Up1Lo1Up1Lo1Up1Lo
   1Up1Lo1Up1Lo1Up1Lo1Up1Lo1Up1Lo1Up1Lo1Up1Lo1Up1Lo1Up1Lo1Up1Lo1Up1Lo1Up1Lo1Up1Lo1Up1Lo1Up1Lo
   1Up1Lo1Up1Lo1Up1Lo1Up1Lo1Up1Lo1Up1Lo1Xx12Up2Xx1Le3Xx1Sc2Xx15Lo1St7Xx19Ex1Xx1Ex1Xx2Ex1Xx2Ex
   1Xx1Ex8XxrLe4Xx5LecXx6Nu6Xx2Sc2XxbEx1Xx1Fo3St17LelExaNu1Xx2Nu1Xx2Le1Ex2rLe1St1Le7Ex1Nu1Xx
   6Ex2Le2Ex1Xx4Ex2LeaNu3Le2Xx1Le3StcXx1Fo1Le1ExuLerEx2Xx2hLebEx1LeeXxaNuxLe9Ex2Le2Xx1Sc1St1Le
   2Xx1Ex2XxmLe4Ex1Le9Ex1Le3Ex1Le5Ex9Xx1St1Xx1St3Xx2St1XxpLe3Ex4XxbLe5XxoLe1Xx6Le1Xx2Nu5Xx9Ex
   16LeoEx1NuxEx1iLe3Ex1LeiEx1Le7ExaLe2Ex2StaNu1XxgLe3Ex1Xx8Le2Xx2Le2XxmLe1Xx7Le1Xx1Le3Xx4Le
   2Xx1Ex1Le7Ex2Xx2Ex2Xx3Ex1Le8Xx1Ex4Xx2Le1Xx3Le2Ex2XxaNu2LeaXx1Le1Xx1Ex2Xx3Ex1Xx6Le4Xx2Le2Xx
   mLe1Xx7Le1Xx2Le1Xx2Le1Xx2Le2Xx1Ex1Xx5Ex4Xx2Ex2Xx3Ex3Xx1Ex7Xx4Le1Xx1Le7XxaNu2Ex3Le1ExbXx3Ex
   1Xx9Le1Xx3Le1XxmLe1Xx7Le1Xx2Le1Xx5Le2Xx1Ex1Le8Ex1Xx3Ex1Xx3Ex2Xx1LefXx2Le2Ex2XxaNu9Xx1Le6Ex
   1Xx3Ex1Xx8Le2Xx2Le2XxmLe1Xx7Le1Xx2Le1Xx5Le2Xx1Ex1Le7Ex2Xx2Ex2Xx3Ex7Xx3Ex4Xx2Le1Xx3Le2Ex2Xx
   aNu1Xx1LegXx1Ex1Le1Xx6Le3Xx3Le1Xx4Le3Xx2Le1Xx1Le1Xx2Le3Xx2Le3Xx3Le3XxcLe4Xx5Ex3Xx3Ex1Xx4Ex
   2Xx1Le6Xx1ExeXxaNugXx5Ex8Le1Xx3Le1XxnLe1XxgLe2Xx1Ex1Le7Ex1Xx3Ex1Xx4Ex7Xx2Ex1Xx3Le2Xx1Le2Xx
   2Le2Ex2XxaNugXx1Le3Ex1Xx8Le1Xx3Le1XxnLe1XxaLe1Xx5Le2Xx1Ex1Le7Ex1Xx3Ex1Xx4Ex7Xx2Ex6Xx2Le1Xx
   2Le2Ex2XxaNu1Xx2Le1ExcXx4Ex9Le1Xx3Le1Xx15Le2Ex1Le7Ex1Xx3Ex1Xx4Ex1Le5Xx3Le1Ex7Xx3Le2Ex2XxaNu
   aXx6Le1Xx3Ex1XxiLe3XxoLe1Xx9Le1Xx1Le2Xx7Le3Xx1Ex4Xx6Ex1Xx1Ex1Xx8Ex6XxaNu2Xx2ExdXx1cLe1Ex2Le
   7Ex5Xx7Le8Ex1XxaNu13Xx2Le1Xx1Le1Xx5Le1XxoLe1Xx1Le1XxaLe1Ex2Le9Ex1Le2Xx5Le1Xx1Le1Xx7Ex1XxaNu
   2Xx4LewXx1LenXx2Ex6XxaNubXx1Ex1Xx1Ex1Xx1Ex4Cl2Ex8Le1Xx10Le4XxkEx1Xx2Ex5LebEx1Xx10Ex9Xx1Ex
   1lXx17LekEx1LeaNu2St4Xx6Le4Ex4Le3Ex1Le3Ex2Le7Ex3Le4ExdLecEx1Le1ExaNu4Ex2Xx12Up1Xx1Up5Xx1Up
   2Xx17Le1Xx1Lo98Le1Xx4Le2Xx7Le1Xx1Le1Xx4Le2Xx15Le1Xx4Le2XxxLe1Xx4Le2Xx7Le1Xx1Le1Xx4Le2XxfLe
   1Xx1lLe1Xx4Le2Xx1vLe2Xx3Ex2Xx1St4Xx2StnXxgLegXx2eUp2Xx6Lo3Xxh8Le1Xx1SthLe1SpqLe2Cl3Xx23Le
   3XxbLe7XxiLe4Ex9XxjLe3Ex2St9XxiLe2ExcXxdLe1Xx3Le1Xx2ExcXx1gLewEx2St1Xx1Le4Xx1Le1Ex2XxaNuoXx
   1Sc1St4Xx1Sc1St1Xx3Ex1Fo1ExaNu6Xx2hLe7Xx5Le2ExyLe1Ex1Le5Xx1yLeaXxvLe1XxcEx4XxcEx8Xx2StaNu
   uLe2Xx5LebXx18Le4XxqLe6XxbNu11XxnLe5Ex4Xx1hLeaEx1XxtEx2Xx1ExaNu6XxaNudXx1Le4St4XxvEx1dXx5Ex
   1bLehEx8Le1Xx2StaNu2St2Xx2StbXx9Ex9Xx3St3ExuLedEx2LeaNu18LeeExcXx10LekEx3Xx2St3XxaNu3Xx3Le
   aNu10Le2St9Lo1Up1Lo5Xx17Le2Xx3LegXx3Ex1XxlEx4Le1Ex6Le1Ex2Le3Ex1Le5Xx5cLo1sEx1Up1Lo1Up1Lo1Up
   1Lo1Up1Lo1Up1Lo1Up1Lo1Up1Lo1Up1Lo1Up1Lo1Up1Lo1Up1Lo1Up1Lo1Up1Lo1Up1Lo1Up1Lo1Up1Lo1Up1Lo1Up
   1Lo1Up1Lo1Up1Lo1Up1Lo1Up1Lo1Up1Lo1Up1Lo1Up1Lo1Up1Lo1Up1Lo1Up1Lo1Up1Lo1Up1Lo1Up1Lo1Up1Lo1Up
   1Lo1Up1Lo1Up1Lo1Up1Lo1Up1Lo1Up1Lo1Up1Lo1Up1Lo1Up1Lo1Up1Lo1Up1Lo1Up1Lo1Up1Lo1Up1Lo1Up1Lo1Up
   1Lo1Up1Lo1Up1Lo1Up1Lo1Up1Lo1Up1Lo1Up1Lo1Up1Lo1Up1Lo1Up1Lo1Up1Lo1Up1Lo1Up1Lo1Up1Lo1Up1Lo1Up
   1Lo1Up1Lo1Up1Lo1Up1Lo1Up1Lo1Up1Lo1Up1Lo1Up1Lo1Up1Lo1Up1Lo1Up1Lo1Up1Lo1Up9Lo1Up1Lo1Up1Lo1Up
   1Lo1Up1Lo1Up1Lo1Up1Lo1Up1Lo1Up1Lo1Up1Lo1Up1Lo1Up1Lo1Up1Lo1Up1Lo1Up1Lo1Up1Lo1Up1Lo1Up1Lo1Up
   1Lo1Up1Lo1Up1Lo1Up1Lo1Up1Lo1Up1Lo1Up1Lo1Up1Lo1Up1Lo1Up1Lo1Up1Lo1Up1Lo1Up1Lo1Up1Lo1Up1Lo1Up
   1Lo1Up1Lo1Up1Lo1Up1Lo1Up1Lo1Up1Lo1Up1Lo1Up1Lo1Up1Lo1Up1Lo1Up1Lo1Up1Lo1Up1Lo1Up1Lo1Up1Lo1Up
   1Lo1Up9Lo8Up6Lo2Xx6Up2Xx8Lo8Up8Lo8Up6Lo2Xx6Up2Xx8Lo1Xx1Up1Xx1Up1Xx1Up1Xx1Up8Lo8UpeLo2Xx8Lo
   8Up8Lo8Up8Lo8Up5Lo1Xx2Lo5Up1Xx1Lo3Xx3Lo1Xx2Lo5Up3Xx4Lo2Xx2Lo4Up4Xx8Lo5Up5Xx3Lo1Xx2Lo5Up3Xx
   bSp1Fo2Ex2Fo3Xx2Sc3Xx8Cl4Xx1At3Xx2Se5Fo1Sp9Xx2Cl1Xx2St7Xx2Cl3StlXx1Sp5Fo1XxaFo1Xx1LobXx2Cl
   1LodXx2Cl1XxdLo1fXxxExhXx1Up4Xx1Up2Xx1Lo3Up2Lo3Up1Lo1Xx1Up3Xx5Up6Xx1Up1Xx1Up1Xx1Up1Xx4Up1Xx
   1Lo4Up1Lo4Le1Lo2Xx2Lo2Up5Xx1Up4Lo4Xx1LohXxgUpgLo3Le1Up1Lo4LeanXx4CltXx2ClazXxqUpqLohdXx6Cl
   7XxeCl27Xx2ClvXxaClb7XxmCl1rXx4ClwXx2CleaXx1cUp1cLo1Up1Lo3Up2Lo1Up1Lo1Up1Lo1Up1Lo4Up1Lo1Up
   2Lo1Up8Lo3Up1Lo1Up1Lo1Up1Lo1Up1Lo1Up1Lo1Up1Lo1Up1Lo1Up1Lo1Up1Lo1Up1Lo1Up1Lo1Up1Lo1Up1Lo1Up
   1Lo1Up1Lo1Up1Lo1Up1Lo1Up1Lo1Up1Lo1Up1Lo1Up1Lo1Up1Lo1Up1Lo1Up1Lo1Up1Lo1Up1Lo1Up1Lo1Up1Lo1Up
   1Lo1Up1Lo1Up1Lo1Up1Lo1Up1Lo1Up1Lo1Up1Lo1Up1Lo1Up1Lo1Up1Lo1Up1Lo1Up1Lo1Up1Lo1Up1Lo1Up1Lo1Up
   1Lo1Up1Lo1Up1Lo1Up1Lo1Up1Lo1Up1Lo1Up2Lo6Xx1Up1Lo1Up1Lo3Ex1Up1Lo5Xx3St4Xx12Lo1Xx1Lo5Xx1Lo2Xx
   1kLe7Xx1LefXx1ExnLe9Xx7Le1Xx7Le1Xx7Le1Xx7Le1Xx7Le1Xx7Le1Xx7Le1Xx7Le1XxwExeCleXx2Cl2XxaCl4Xx
   1St1LecXx1St5Xx1ClgXx2St8ClbnXx1Sp1Sc1St2Xx3LeaCl2Xx8Cl1Xx3Cl1Xx9Le6Ex1Xx5Le2Xx5Le4Xx2eLe
   2Xx2Ex2Xx3Le1Xx2iLe1Xx4Le5Xx17Le1Xx2mLehXxwLe1cXxgLee8Xx534Le1sXxh3hLe1vXx1aLe1Xx1St7hLe1Xx
   2StgLeaNu2LekXx1Up1Lo1Up1Lo1Up1Lo1Up1Lo1Up1Lo1Up1Lo1Up1Lo1Up1Lo1Up1Lo1Up1Lo1Up1Lo1Up1Lo1Up
   1Lo1Up1Lo1Up1Lo1Up1Lo1Up1Lo1Up1Lo1Up1Lo1Up1Lo1Up1Lo1Up1Lo1Up1Lo1Le4Ex1XxaEx1Xx1Le1Up1Lo1Up
   1Lo1Up1Lo1Up1Lo1Up1Lo1Up1Lo1Up1Lo1Up1Lo1Up1Lo1Up1Lo1Up1Lo1Up1Lo1Up1Lo1Up3Lo2Ex28Le2Ex1Xx1St
   3Xx1StvXx9Le2Xx1Up1Lo1Up1Lo1Up1Lo1Up1Lo1Up1Lo1Up1Lo1Up3Lo1Up1Lo1Up1Lo1Up1Lo1Up1Lo1Up1Lo1Up
   1Lo1Up1Lo1Up1Lo1Up1Lo1Up1Lo1Up1Lo1Up1Lo1Up1Lo1Up1Lo1Up1Lo1Up1Lo1Up1Lo1Up1Lo1Up1Lo1Up1Lo1Up
   1Lo1Up1Lo1Up1Lo1Up1Lo1Up1Lo1Up1Lo1Up1Lo1Up1Lo1Up1Lo1Up1Lo1UpaLo1Up1Lo1Up1Lo2Up1Lo1Up1Lo1Up
   1Lo1Up1Lo1Up1Lo1Le2Xx1Up1Lo1Up1Lo1Le1Up1Lo1Up3Lo1Up1Lo1Up1Lo1Up1Lo1Up1Lo1Up1Lo1Up1Lo1Up1Lo
   1Up1Lo1Up1Lo1Up1Lo5Up1Lo5Up1Lo1Up1Lo1Up1Lo1Up1Lo1Up1Lo1Up1Lo1Up1Lo1Up1Lo4Up1Lo1Up1Lo2Up1Lo
   2Xx1Up1Lo1Xx1Lo1Xx1Lo1Up1Lo1Up1Lo1Up1Lo1UplXx3Lo1Up1Lo1Le3Lo7Le1Ex3Le1Ex4Le1ExnLe5Ex4Xx1Ex
   jXx1gLe2Xx2St8Xx2Ex1eLeiEx8Xx2StaNu6XxiEx6Le3Xx1Le1Xx2Le1ExaNusLe8Ex1Xx1StnLedExcXxtLe3Xx
   4Ex1bLeeEx7Xx2St5Xx1LeaNu6Xx5Le1ExaLeaNu5Le1Xx15LeeEx9Xx3Le1Ex8Le2Ex2XxaNu3Xx3StnLe3Xx1Le
   3Ex1eLe1Ex1Le3Ex2Le2Ex5Le2Ex1Le1Ex1LeoXx3Le2XxbLe5Ex2St3Le2ExaXx6Le2Xx6Le2Xx6Le9Xx7Le1Xx7Le
   1Xx17Lo1XxeLo6Xx28LozLe8Ex1St2Ex2XxaNu6Xx8mcLecXxnLe4Xx1dLe6isXxa6Le2Xx2yLe12Xx7LocXx5Lo5Xx
   1Le1ExaLe1XxdLe1Xx5Le1Xx1Le1Xx2Le1Xx2Le1Xx30LexXxa3Le2ClgXx1sLe2Xx1iLe14XxcLe4XxgEx2Sc1St
   2Sc2St2Cl7XxgEx1Xx2Sc2XxgCl2Xx2Cl7Xx2Sc1At1Xx2Sc2St1Sc6Cl4Xx1SccXx5Le1Xx3rLe2Xx1Fo1Xx1St6Xx
   2Cl2Xx2Sc1At1XxaNu2Sc3Xx1St1XxqUp1Cl1Xx1Cl3XxqLo1Cl1Xx1Cl1Xx2Cl1St2Cl1Sc1Xx1kLe2ExvLe3Xx6Le
   2Xx6Le2Xx6Le2Xx3LesXx3Fo4XxcLe1XxqLe1XxjLe1Xx2Le1XxfLe2XxeLeyXx3fLe1xXx1hLe3sXx1Ex3mXxtLe
   3Xx1dLefXx1ExvXxwLedXxuLe5Xx12Le5Ex5XxuLe2Xx10Le4Xx8Le1Xx5Le16Xx14Up14Lo26Le2XxaNu6Xx10Up
   4Xx10Lo4Xx14Le8Xx1gLecXxbUp1XxfUp1Xx7Up1Xx2Up1XxbLo1XxfLo1Xx7Lo1Xx2Lo3Xx1gLecXx8nLe9XxmLe
   aXx8LeoXx1Lo2Le3Lo1Xx16Lo1Xx9Lo1xXx6Le2Xx1Le1Xx18Le1Xx2Le3Xx1Le2XxnLeaXxnLe9XxvLe1tXxjLe1Xx
   2LeaXxmLeaXxqLe1yXx1kLe6Xx2Le1sXx1Le3Ex1Xx2Ex5Xx4Ex4Le1Xx3Le1XxtLe2Xx3Ex4Xx1ExmXx2St8XxtLe
   3XxtLezXx8Le1XxsLe2ExpXx1iLeaXxmLeaXxjLedXxiLe32Xx21Le1jXx1fUpdXx1fLodXx10Le4Ex8XxaNu6XxaNu
   6LemUp3Xx5Ex1Xx1LemLo6yXx16Le1Xx2Ex3Xx2LegXx3Le1jXx4ExtLeaXx1Le8XxmLebEx4Xx5StmXxiLe4Ex4St
   12XxlLerXxnLe9Xx3Ex1hLefEx2SttXxaNu1Ex2Le2Ex1Le9Xx4Ex19LebEx2Xx1Nu4St1ExaXx1Nu2XxpLe7XxaNu
   6Xx3Ex10LeeEx1XxaNu1Xx3St1Le2Ex1Le8XxzLe1Ex2Xx1Le9Xx3Ex1cLeeEx4Le2St2Xx4Ex1St2ExaNu1Le1Xx
   1Le1Xx2StwXxiLe1XxpLecEx2St1Xx2St1Xx1Ex2Le1Ex1qXx7Le1Xx1Le1Xx4Le1XxfLe1XxaLe1St6Xx1bLecEx
   5XxaNu6Xx4Ex1Xx8Le2Xx2Le2XxmLe1Xx7Le1Xx2Le1Xx5Le1Xx2Ex1Le7Ex2Xx2Ex2Xx3Ex2Xx1Le6Xx1Ex5Xx5Le
   2Ex2Xx7Ex3Xx5ExbXxaLe1Xx1Le2Xx1Le1Xx12Le1Xx1Le9Ex1Xx1Ex2Xx1Ex1Xx4Ex1Xx5Ex1Le1Ex1Le2StbXx2Ex
   tXx1hLeiEx4Le2St3XxaNu4Xx1Ex3LeuXx1cLekEx2Le1Xx1Le8XxaNu4mXx1bLe7Ex2Xx9Ex1Xx2St5XxfSt4Le2Ex
   yXx1cLehEx2St1Xx1LebXxaNu12Xx17LedEx1Le7XxaNu6XxkNusXxrLe2XxfEx4XxaNu2Xx3St1Xx7Le55Xx18Le
   fEx2tXxwUpwLoaNulXx8Le2Xx1Le2Xx8Le1Xx2Le1XxoLe6Ex1Xx2Ex2Xx4Ex1Le1Ex1Le2Ex1St1Xx1St9XxaNu
   1yXx8Le2Xx13Le7Ex2Xx7Ex1Le1Xx1Le1ExrXx1LeaEx14Le7Ex1Le4Ex3Xx2St3Xx1Ex8Xx1LebEx1aLegEx1Xx2St
   1LeiXx21Le5jXxxLefXxaNu6Xx9Le1Xx11Le8Ex1Xx8Ex1Le2StdXxaNuoXxuLe2XxmEx1XxeEx21Xx7Le1Xx2Le1Xx
   12Le6Ex3Xx1Ex1Xx2Ex1Xx7Ex1Le1Ex8XxaNu6Xx6Le1Xx2Le1XxwLe5Ex1Xx2Ex1Xx5Ex1Le7XxaNu8mXxjLe4Ex
   2St7Xx2Ex1Le1ExdLe1XxyLe7Ex3Xx5Ex2StbXxaNu1Ex2dXx1Le27XxpmLe2uXx33LehXx5gLe218Xx2pLefXxtsLe
   gFo1Ex6LefExaXx32zLe5Xxg7Le5a1XxuLeiExaNu1c6XxftLe7XxvLe1XxaNu4Xx2St27Le1XxaNu6XxuLe2Xx5Ex
   1StaXx1cLe7Ex2St7Xx4Le1StbXxaNu9XxlLe5XxjLec0Xx19Le1Xx2StaNu5iXxwUpwLooXx1St2vXx23Le4Xx1Ex
   1Le1jEx7Xx4ExdLe1sXx2Le1Xx1Le1ExbXx2ExeXx4qgLe8XxyeLe15XxaLe6w7Xx4Le1Xx7Le1Xx2Le1Xx83LefXx
   1LetXx3Le2Xx1LeeXx4Le8Xxb0Le1s4Xx2zLe5XxdLe3Xx9Le7XxaLe3Xx2Ex1St4Fo37wXxaNueeXx1aEx2XxnEx
   f2Xx5Ex3Xx6Ex8Fo8Ex2Xx7ExuXx4Ex44Xx3ExcbXxqUpqLoqUp7Lo1XxiLoqUpqLo1Up1Xx2Up2Xx1Up2Xx2Up2Xx
   4Up1Xx8Up4Lo1Xx1Lo1Xx7Lo1XxbLoqUpqLo2Up1Xx4Up2Xx8Up1Xx7Up1XxqLo2Up1Xx4Up1Xx5Up1Xx1Up3Xx7Up
   1XxqLoqUpqLoqUpqLoqUpqLoqUpqLoqUpqLoqUpsLo2XxpUp1XxpLo1Xx6LopUp1XxpLo1Xx6LopUp1XxpLo1Xx6Lo
   pUp1XxpLo1Xx6LopUp1XxpLo1Xx6Lo1Up1Lo2Xx1eNue8Xx1jEx4Xx1eEx8Xx1ExeXx1Ex3Xx1StiXx5Ex1XxfEx
   uoXxaLo1LekLo6Xx6Lo5xXx7Ex1XxhEx2Xx7Ex1Xx2Ex1Xx5Ex5Xx1qLoxXx1Ex34Xx19Le3Xx7Ex7Le2XxaNu4Xx
   1Le8xXxuLe1ExhXx18Le4ExaNud2XxsLe4ExaNu5yXxuLe2Ex1LeaNudhXx7Le1Xx4Le1Xx2Le1XxfLe1Xx5hLebXx
   7Ex15XxyUpyLo7Ex1Le4XxaNux2Xx4Le1XxrLe1Xx2Le1Xx1Le2Xx1Le1XxaLe1Xx4Le1Xx1Le1Xx1Le6Xx1Le4Xx
   1Le1Xx1Le1Xx1Le1Xx3Le1Xx2Le1Xx1Le2Xx1Le1Xx1Le1Xx1Le1Xx1Le1Xx1Le1Xx2Le1Xx1Le2Xx4Le1Xx7Le1Xx
   4Le1Xx4Le1Xx1Le1XxaLe1XxhLe5Xx3Le1Xx5Le1XxhLehgXxqUp6XxqUp6XxqUpz0Xx3Cl12vXxaNusmXxwyoLewXx
   37eLe6Xx66Le2Xx4g2LeeXx5rlLefXxhaLe1wiXxf2Le15uXx3t7Le5Xx38gLef975Xx1FouXx2oEx3kXx6oEx
   47bkXx"

/-- The classes between which a text is cut into sentences. -/
def sentenceBreak : Classification where
  runs := Run.readAll sentenceRuns
  names := [
    (["aterm", "at"], ["At"]),
    (["cr"], ["Cr"]),
    (["close", "cl"], ["Cl"]),
    (["extend", "ex"], ["Ex"]),
    (["format", "fo"], ["Fo"]),
    (["lf"], ["Lf"]),
    (["lower", "lo"], ["Lo"]),
    (["numeric", "nu"], ["Nu"]),
    (["oletter", "le"], ["Le"]),
    (["scontinue", "sc"], ["Sc"]),
    (["sterm", "st"], ["St"]),
    (["sep", "se"], ["Se"]),
    (["sp"], ["Sp"]),
    (["upper", "up"], ["Up"])]

end ScriptLoader.Pattern.Property
