import Promptbook.Character.Table

/-! Ages of characters.

A character is as old as the version of the standard that assigned it. The table gives
the versions of all code points run by run, without the point between their parts. -/
namespace Promptbook.Character

/-- The version that assigned each code point, if one did. -/
def ageTable : List String := [
  "502v11 4v30 30v11 8v30 v32 v40 18v30 3v40 11v41 14v50 89v11 5v30 2v40 47v11 v30 10v11 5v30",
  "17v40 70v11 9v30 v32 8v40 5v41 3v40 2v11 v30 13v32 4v51 2v11 2v51 2Cn v11 3v50 v11 v70 4Cn",
  "7v11 Cn v11 Cn 20v11 Cn 44v11 v51 7v11 v30 2v32 v11 v30 v11 v30 v11 v30 v11 v30 18v11 2v31 v32",
  "5v40 4v41 v30 12v11 v30 66v11 v30 12v11 v30 41v11 v51 2v30 2v32 4v30 53v11 2v32 2v11 2v32 2v11",
  "2v32 v50 28v11 2v30 8v11 2v41 2v11 6v50 16v32 4v50 16v51 2v52 2v60 8v70 Cn 38v11 2Cn 7v11 v110",
  "39v11 v110 v11 v30 2Cn 2v70 v61 Cn 17v20 v41 13v20 10v11 v50 9v11 v20 3v41 8Cn 27v11 4Cn v110",
  "5v11 11Cn 4v40 v61 v70 5v51 v41 v11 9v40 5v51 v11 v63 v140 v41 v11 v60 26v11 5v51 19v11 3v30",
  "3v40 6v41 v60 14v11 2v32 72v11 2v30 5v11 v30 15v11 v30 30v11 2v40 10v11 5v30 v40 14v30 Cn",
  "30v30 3v40 27v30 2Cn 3v40 30v41 18v51 49v30 v32 14Cn 59v50 2Cn 3v110 46v52 2Cn 15v52 Cn 28v60",
  "2Cn v60 Cn 11v100 5Cn 31v140 Cn 2v140 5Cn v160 8v140 v61 v70 11v61 6v70 2v80 v140 8v90 10v130",
  "11v140 v110 15v90 v80 27v61 v70 v52 3v11 v40 53v11 2v60 18v11 v52 v60 5v11 v52 2v60 25v11 2v51",
  "5v60 v70 2v52 2v50 v41 2v50 v70 3v11 Cn 8v11 2Cn 2v11 2Cn 22v11 Cn 7v11 Cn v11 3Cn 4v11 2Cn",
  "v11 v40 7v11 2Cn 2v11 2Cn 3v11 v41 8Cn v11 4Cn 2v11 Cn 5v11 2Cn 21v11 v52 2v100 v110 2Cn v40",
  "v11 v40 Cn 6v11 4Cn 2v11 2Cn 22v11 Cn 7v11 Cn 2v11 Cn 2v11 Cn 2v11 2Cn v11 Cn 5v11 4Cn 2v11",
  "2Cn 3v11 3Cn v51 7Cn 4v11 Cn v11 7Cn 15v11 v51 v110 10Cn 3v11 Cn 7v11 v40 v11 Cn 3v11 Cn 22v11",
  "Cn 7v11 Cn 2v11 Cn 5v11 2Cn 10v11 Cn 3v11 Cn 3v11 2Cn v11 15Cn v11 3v40 2Cn 10v11 v61 v40 7Cn",
  "v80 6v100 Cn 3v11 Cn 8v11 2Cn 2v11 2Cn 22v11 Cn 7v11 Cn 2v11 Cn v40 4v11 2Cn 8v11 v51 2Cn 2v11",
  "2Cn 3v11 7Cn v130 2v11 4Cn 2v11 Cn 3v11 2v51 2Cn 11v11 v40 6v60 10Cn 2v11 Cn 6v11 3Cn 3v11 Cn",
  "4v11 3Cn 2v11 Cn v11 Cn 2v11 3Cn 2v11 3Cn 3v11 3Cn 8v11 v41 3v11 4Cn 5v11 3Cn 3v11 Cn 4v11 2Cn",
  "v51 6Cn v11 14Cn v41 12v11 8v40 5Cn v70 3v11 v110 8v11 Cn 3v11 Cn 23v11 Cn 10v11 v70 5v11 2Cn",
  "v140 v51 7v11 Cn 3v11 Cn 4v11 7Cn 2v11 Cn 2v51 v80 2Cn v140 2Cn 2v11 2v51 2Cn 10v11 7Cn v120",
  "8v51 v90 v70 2v11 v110 8v11 Cn 3v11 Cn 23v11 Cn 10v11 Cn 5v11 2Cn 2v40 7v11 Cn 3v11 Cn 4v11",
  "7Cn 2v11 6Cn v140 v11 Cn 2v11 2v50 2Cn 10v11 Cn 2v50 v150 12Cn v100 v70 2v11 v130 8v11 Cn 3v11",
  "Cn 23v11 v60 16v11 v60 2v100 v51 6v11 v51 Cn 3v11 Cn 4v11 v60 v90 4Cn 3v90 v11 7v90 v80 2v11",
  "2v51 2Cn 10v11 6v51 3v90 7v51 Cn v130 2v30 Cn 18v30 3Cn 24v30 Cn 9v30 Cn v30 2Cn 7v30 3Cn v30",
  "4Cn 6v30 Cn v30 Cn 8v30 6Cn 10v70 2Cn 3v30 12Cn 58v11 4Cn 29v11 37Cn 2v11 Cn v11 Cn v120 2v11",
  "v120 v11 Cn v120 v11 6v120 4v11 v120 7v11 v120 3v11 Cn v11 Cn v11 2v120 2v11 v120 13v11 v120",
  "3v11 2Cn 5v11 Cn v11 Cn 6v11 v150 Cn 10v11 2Cn 2v11 2v61 32Cn 72v20 Cn 33v20 v30 2v51 4Cn",
  "27v20 4v60 6v20 v30 v20 Cn 21v20 3v30 7v20 v30 v20 3v30 Cn 15v30 Cn v51 v30 2v41 3v51 4v52",
  "2v60 37Cn 34v30 v51 5v30 v51 2v30 v51 7v30 3v51 4v30 6v51 26v30 64v51 4v52 2v51 38v11 Cn v61",
  "5Cn v61 2Cn 39v11 2v32 2v41 v11 v41 3v61 90v11 5v52 68v11 5v52 82v11 6v52 7v30 v41 63v30 v41",
  "v30 Cn 4v30 2Cn 7v30 Cn v30 Cn 4v30 2Cn 39v30 v41 v30 Cn 4v30 2Cn 31v30 v41 v30 Cn 4v30 2Cn",
  "7v30 Cn v30 Cn 4v30 2Cn 7v30 v41 7v30 Cn 23v30 v41 31v30 v41 v30 Cn 4v30 2Cn 7v30 v41 39v30",
  "v41 19v30 2Cn 2v60 2v41 28v30 3Cn 26v41 6Cn 85v30 v80 2Cn 6v80 2Cn v52 630v30 9v52 29v30 3Cn",
  "81v30 8v70 7Cn 13v32 v140 7v32 v140 9Cn v140 23v32 9Cn 20v32 12Cn 13v32 Cn 3v32 Cn 2v32 12Cn",
  "93v30 v40 2Cn 10v30 6Cn 10v40 6Cn 15v30 v140 10v30 6Cn 88v30 v110 7Cn 42v30 v51 5Cn 70v52 10Cn",
  "29v40 2v70 Cn 12v40 4Cn 12v40 4Cn v40 3Cn 42v40 2Cn 5v40 11Cn 42v41 2v52 4Cn 26v41 6Cn 10v41",
  "v52 3Cn 2v41 32v40 28v41 2Cn 2v41 63v52 Cn 29v52 2Cn 11v52 6Cn 10v52 6Cn 14v52 2Cn 15v70 2v130",
  "14v140 49Cn 76v50 v140 Cn 2v160 45v50 2v140 v160 43v51 3v61 12v51 6v61 52v60 8Cn 4v60 56v51",
  "3Cn 15v51 3Cn 51v51 9v90 2v160 5Cn 43v110 2Cn 3v110 8v61 8Cn 35v52 4v61 v100 2v70 v120 5Cn",
  "108v40 88v41 7v50 28v51 15v70 4v100 v140 v90 v60 v52 2v50 155v11 v20 4v51 90v11 6v51 22v11 2Cn",
  "6v11 2Cn 38v11 2Cn 6v11 2Cn 8v11 Cn v11 Cn v11 Cn v11 Cn 31v11 2Cn 53v11 Cn 15v11 Cn 14v11 2Cn",
  "6v11 Cn 19v11 2Cn 3v11 Cn 9v11 Cn 47v11 v30 23v11 v32 6v30 5v32 2v40 2v41 v32 7v41 5v32 v51 Cn",
  "4v63 7v11 v32 2Cn 27v11 Cn 5v41 8v60 3Cn 11v11 v20 v21 3v30 2v32 4v41 3v52 v60 v62 3v70 v80",
  "v100 v140 15Cn 18v11 2v30 7v32 v41 4v50 v51 15Cn 57v11 2v30 v40 v41 15v32 v41 2v50 v51 3v52",
  "48v11 v30 v50 4v51 v52 2v80 4Cn 91v11 9v30 12v32 242v11 14v32 v11 v30 121v11 v30 v32 30v30",
  "52v32 2v40 11v41 12v50 v52 11v60 7v70 4v90 v100 37v11 2v30 3v160 22Cn 11v11 21Cn 139v11 20v32",
  "v40 150v11 10v32 80v11 8v30 8v32 20v11 2v40 2v32 v41 v30 86v11 2v30 12v32 2v41 10v32 8v40",
  "11v41 v51 2v52 2v40 16v41 v50 10v51 3v52 4v51 10v52 v60 19v52 v60 v52 4v60 24v52 v70 4v11 v60",
  "4v11 2v60 28v11 v60 35v11 v60 v11 v60 4v11 3v60 v11 v52 7v11 2v60 7v11 14v32 31v11 3v60 24v11",
  "v60 14v11 v60 7v41 4v50 v61 v51 v61 2v60 28v32 4v51 16v32 256v30 512v32 14v40 6v41 7v50 5v51",
  "4v50 41v51 3v70 5v51 5v52 26v70 2Cn 32v70 Cn v130 34v70 3v110 12v70 v120 8v70 v100 25v110 4v80",
  "15v110 v120 47v41 v140 47v41 v140 13v50 3v51 v52 3v51 4v50 6v51 2v52 107v41 7v52 2v61 5Cn",
  "45v41 Cn v61 5Cn v61 2Cn 54v41 2v61 7Cn v41 v60 14Cn v60 23v41 9Cn 7v41 Cn 7v41 Cn 7v41 Cn",
  "7v41 Cn 7v41 Cn 7v41 Cn 7v41 Cn 7v41 Cn 32v51 24v41 4v51 2v41 19v51 v52 10v61 7v70 2v90 5v100",
  "5v110 v120 3v130 11v140 34Cn 26v30 Cn 89v30 12Cn 214v30 26Cn 12v30 4v151 56v11 3v30 3v32 v30",
  "v11 Cn 84v11 2v32 2Cn 6v11 2v32 94v11 v32 5Cn 40v11 v51 v100 v110 Cn 94v11 Cn 16v11 24v30 3v60",
  "5v130 16v41 20v51 2v160 9Cn v151 16v32 29v11 2v40 Cn 36v11 12v52 v40 15v32 28v11 2v40 v41",
  "50v11 15v32 12v11 4v40 47v11 v121 119v11 4v40 99v11 2v40 31v11 v40 6582v30 10v130 64v40",
  "20902v11 22v41 8v51 8v52 v61 9v80 21v100 5v110 13v130 3v140 1165v30 3Cn 18v30 2v32 16v30 v32",
  "12v30 v32 3v30 v32 v30 9Cn 48v52 300v51 20Cn 32v51 2v60 18v51 8v61 28v51 6v70 v80 v61 88v52",
  "8Cn 23v41 4v50 5v51 2v50 107v51 2v60 v80 2v60 2v61 12v70 10v60 v61 3v70 v90 v110 2v70 6v80",
  "2v110 6v120 2v140 5v120 4v130 3v160 2Cn 2v140 Cn v140 Cn 5v140 3v160 21Cn 3v140 2v130 v70 2v61",
  "v60 5v51 44v41 v130 3Cn 10v52 6Cn 56v50 8Cn 69v51 v90 8Cn 12v51 6Cn 28v52 2v80 2v110 84v51",
  "11Cn v51 29v52 3Cn 78v52 Cn 11v52 4Cn 2v52 31v70 Cn 55v51 9Cn 14v51 2Cn 10v51 2Cn 4v51 28v52",
  "4v70 67v52 24Cn 5v52 23v61 10Cn 6v60 2Cn 6v60 2Cn 6v60 9Cn 7v60 Cn 7v60 Cn 48v70 4v80 2v70",
  "2v120 4v130 4Cn 80v80 46v52 2Cn 10v52 6Cn 11172v20 12Cn 23v52 4Cn 49v52 4Cn 2048Cs 6702v11",
  "2v61 59v32 3v52 2Cn 106v41 38Cn 7v11 12Cn 5v11 5Cn v30 25v11 Cn 5v11 Cn v11 Cn 2v11 Cn 2v11 Cn",
  "108v11 16v60 v140 16Cn 365v11 16v140 64v11 2Cn 54v11 7Cn v140 32v31 12v11 v32 v40 2v140 16v32",
  "10v41 6Cn 4v11 3v51 7v70 2v80 21v11 2v32 2v40 10v11 Cn 19v11 Cn 4v11 4Cn 3v11 v32 v11 Cn",
  "135v11 2Cn v11 Cn 94v11 2v32 94v11 3Cn 6v11 2Cn 6v11 2Cn 6v11 2Cn 3v11 3Cn 7v11 Cn 7v11 10Cn",
  "3v30 v21 3v11 12v40 Cn 26v40 Cn 19v40 Cn 2v40 Cn 15v40 2Cn 14v40 34Cn 123v40 5Cn 3v40 4Cn",
  "45v40 3Cn 9v40 75v41 2v70 2v90 Cn 12v51 v130 3Cn v70 47Cn 46v51 130Cn 29v51 3Cn 49v51 15Cn",
  "28v70 4Cn 31v31 v70 4v31 9Cn 3v100 27v31 5Cn 43v70 5Cn 30v40 Cn v40 36v41 4Cn 14v41 42Cn 38v31",
  "2v40 38v31 80v40 2Cn 10v40 6Cn 36v90 4Cn 36v90 4Cn 40v70 8Cn 52v70 11Cn v70 11v140 Cn 15v140",
  "Cn 7v140 Cn 2v140 Cn 11v140 Cn 15v140 Cn 7v140 Cn 2v140 3Cn 52v160 12Cn 311v70 9Cn 22v70 10Cn",
  "8v70 24Cn 6v140 Cn 42v140 Cn 9v140 69Cn 6v40 2Cn v40 Cn 44v40 Cn 2v40 3Cn v40 2Cn v40 22v52 Cn",
  "9v52 63v70 8Cn 9v70 48Cn 19v80 Cn 2v80 5Cn 5v80 26v50 2v52 3Cn v50 26v51 5Cn v51 64Cn 56v61",
  "4Cn 2v80 2v61 16v80 2Cn 46v80 4v41 Cn 2v41 5Cn 8v41 Cn 3v41 Cn 27v41 2v110 2Cn 3v41 4Cn 9v41",
  "v110 7Cn 9v41 7Cn 32v52 32v70 32Cn 39v70 4Cn 12v70 9Cn 54v52 3Cn 29v52 2Cn 27v52 5Cn 8v52",
  "18v70 7Cn 4v70 12Cn 7v70 80Cn 73v52 55Cn 51v80 13Cn 51v80 7Cn 6v80 40v110 8Cn 10v110 6Cn",
  "38v160 3Cn 29v160 8Cn 2v160 208Cn 31v52 Cn 42v130 Cn 3v130 2Cn 2v130 16Cn 3v160 55Cn v160",
  "3v150 40v110 8Cn 42v110 22Cn 26v140 38Cn 28v130 20Cn 23v120 9Cn 78v60 4Cn 30v60 6v140 9Cn v70",
  "66v52 v140 10Cn v110 2Cn 25v61 7Cn 10v61 6Cn 53v61 Cn 14v61 3v110 v130 8Cn 39v70 9Cn 73v61",
  "4v80 v70 2v130 10v61 v70 5v80 Cn 20v70 11Cn 18v70 Cn 43v70 v90 3v150 62Cn 7v80 Cn v80 Cn 4v80",
  "Cn 15v80 Cn 11v80 6Cn 59v70 5Cn 10v70 6Cn v80 3v70 Cn 8v70 2Cn 2v70 2Cn 22v70 Cn 7v70 Cn 2v70",
  "Cn 5v70 Cn v110 9v70 2Cn 2v70 2Cn 3v70 2Cn v80 6Cn v70 5Cn 7v70 2Cn 7v70 3Cn 5v70 11Cn 10v160",
  "Cn v160 2Cn v160 Cn 38v160 Cn 10v160 Cn v160 2Cn v160 Cn 4v160 Cn 10v160 Cn 2v160 8Cn 2v160",
  "29Cn 90v90 v130 v90 Cn v90 v110 v120 2v130 30Cn 72v70 8Cn 10v70 166Cn 54v70 2Cn 18v70 20v80",
  "34Cn 69v70 11Cn 10v70 6Cn 13v90 19Cn 56v61 v120 v140 6Cn 10v61 6Cn 20v160 28Cn 26v80 v110 2Cn",
  "15v80 4Cn 16v80 7v140 185Cn 60v110 100Cn 83v70 12Cn v70 7v130 2Cn v130 2Cn 8v130 Cn 2v130 Cn",
  "30v130 Cn 2v130 2Cn 12v130 9Cn 10v130 70Cn 8v120 2Cn 46v120 2Cn 11v120 27Cn 72v100 8Cn 52v100",
  "2v120 23v100 v110 5v100 13Cn 16v140 57v70 7Cn 10v150 182Cn 34v160 14Cn 10v160 6Cn 9v90 Cn",
  "45v90 Cn 14v90 10Cn 29v90 3Cn 32v90 2Cn 22v90 Cn 14v90 73Cn 7v100 Cn 2v100 Cn 44v100 3Cn v100",
  "Cn 2v100 Cn 9v100 8Cn 10v100 6Cn 6v110 Cn 2v110 Cn 37v110 Cn 2v110 Cn 6v110 7Cn 10v110 310Cn",
  "25v110 7Cn 17v150 Cn 41v150 3Cn 28v150 v160 85Cn v130 15Cn 50v120 13Cn v120 879v50 42v70 v80",
  "102Cn 99v50 12v70 Cn 4v50 v70 11Cn 196v80 2636Cn 99v140 13Cn 1071v52 v150 9v120 29v150 10Cn",
  "3995v160 5Cn 583v80 6841Cn 58v160 1734Cn 569v60 7Cn 31v70 Cn 10v70 4Cn 2v70 79v140 Cn 10v140",
  "6Cn 30v70 2Cn 6v70 10Cn 70v70 10Cn 10v70 Cn 7v70 Cn 21v70 5Cn 19v70 432Cn 58v160 198Cn 91v110",
  "101Cn 69v61 6v120 4Cn v120 47v61 9v120 7Cn 17v61 64Cn v90 v100 2v120 v130 11Cn 2v130 14Cn",
  "6125v90 5v110 6v120 8Cn 755v90 483v130 41Cn v160 9v130 8935Cn 4v140 Cn 7v140 Cn 2v140 Cn 2v60",
  "285v100 4v140 15Cn v150 29Cn 3v120 2Cn v150 14Cn 4v120 8Cn 396v100 2308Cn 107v70 5Cn 13v70 3Cn",
  "9v70 7Cn 10v70 2Cn 8v70 3932Cn 250v160 6Cn 436v160 76Cn 46v140 2Cn 23v140 9Cn 116v140 60Cn",
  "246v31 10Cn 39v31 2Cn v51 180v31 11v80 2v140 21Cn 70v41 122Cn 20v150 12Cn 20v110 12Cn 87v40",
  "9Cn 18v50 7v110 135Cn 85v31 Cn 71v31 Cn 2v31 2Cn v31 2Cn 2v31 2Cn 4v31 Cn 12v31 Cn v31 Cn 4v31",
  "v40 2v31 Cn 65v31 Cn 4v31 2Cn 8v31 Cn 7v31 Cn 28v31 Cn 4v31 Cn 5v31 Cn v31 3Cn 7v31 Cn 338v31",
  "2v41 2Cn 290v31 2v50 2Cn 50v31 652v80 15Cn 5v80 Cn 15v80 1104Cn 31v140 6Cn 6v150 213Cn 7v90 Cn",
  "17v90 2Cn 7v90 Cn 2v90 Cn 5v90 5Cn 62v150 33Cn v150 112Cn 45v120 3Cn 14v120 2Cn 10v120 4Cn",
  "2v120 320Cn 31v140 17Cn 58v120 5Cn v120 464Cn 42v150 214Cn 43v160 4Cn v160 480Cn 7v140 Cn",
  "4v140 Cn 2v140 Cn 15v140 Cn 197v70 2Cn 16v70 41Cn 75v90 v120 4Cn 10v90 4Cn 2v90 785Cn 68v110",
  "76Cn 61v120 194Cn 4v61 Cn 27v61 Cn 2v61 Cn v61 2Cn v61 Cn 10v61 Cn 4v61 Cn v61 Cn v61 6Cn v61",
  "4Cn v61 Cn v61 Cn v61 Cn 3v61 Cn 2v61 Cn v61 2Cn v61 Cn v61 Cn v61 Cn v61 Cn v61 Cn 2v61 Cn",
  "v61 2Cn 4v61 Cn 7v61 Cn 4v61 Cn 4v61 Cn v61 Cn 10v61 Cn 17v61 5Cn 3v61 Cn 5v61 Cn 17v61 52Cn",
  "2v61 270Cn 44v51 4Cn 100v51 12Cn 15v60 2Cn 14v60 v70 Cn 15v60 Cn 15v60 22v70 10Cn 11v52 2v70",
  "3v130 31v52 v110 v60 v52 11v60 v52 v60 v52 2v60 v52 3v60 v52 3v60 5v52 8v60 v52 7v60 v52 10v60",
  "2v61 v120 3v130 9v60 v52 v60 2v52 2v60 v52 10v60 4v52 2v60 v52 10v60 18v90 v130 56Cn 26v60 v52",
  "2v60 13Cn 34v52 9v60 v90 4Cn 9v52 7Cn 2v60 14Cn 6v100 154Cn 33v60 12v70 3v80 6v60 v70 70v60",
  "v70 2v80 20v60 12v70 37v60 v70 5v60 4v70 5v80 12v70 17v60 7v70 8v80 63v60 v70 v60 v70 182v60",
  "v70 4v60 2v70 v80 62v60 2v70 4v61 7v70 5v80 24v60 18v70 v90 41v70 v90 86v70 5v60 v61 16v60 v61",
  "3v60 v61 v60 v61 v60 v61 v60 v61 3v60 v61 6v60 2v61 4v60 v61 v60 2v61 4v60 v61 12v60 2v70 2v80",
  "11v60 48v70 70v60 10v70 v80 2v90 2v100 v120 2v130 4Cn v150 3v140 13v70 3Cn 4v70 3v90 2v100",
  "v110 v120 2v130 3Cn 116v60 3v150 4Cn 5v150 85v70 4v110 v150 6Cn 12v120 4Cn v140 15Cn 12v70 4Cn",
  "56v70 8Cn 10v70 6Cn 40v70 8Cn 30v70 2Cn 2v130 10v160 4Cn 2v160 62Cn 12v100 v130 3v120 9v80",
  "6v90 v100 8v90 8v100 v90 2v100 12v90 v120 12v90 v100 3v110 15v90 13v100 5v110 v120 v130 4v110",
  "2v130 v140 v110 v120 4v110 5v80 13v90 6v100 11v110 2v130 6v120 3v130 2v120 10v110 6v120 v80",
  "2v110 8v120 v130 v140 3v120 23v100 25v110 84v120 12Cn 14v110 2Cn 4v120 v130 3v150 3v120 2v140",
  "3Cn 3v120 4v130 2v150 v160 5Cn v160 6v120 19v130 4v140 3v150 7v130 4v140 3v150 v160 v150 3v130",
  "3v140 v160 7Cn 2v150 7v130 3v140 2v150 v160 2Cn v160 8v140 v150 v160 6Cn 7v140 2v150 7Cn",
  "147v130 Cn 55v130 37v160 10v130 1028Cn 2v20 42711v31 7v130 2v140 32Cn 4149v52 4v140 v150 6Cn",
  "222v60 2Cn 5762v80 14Cn 7473v100 15Cn 622v151 2466Cn 542v31 1504Cn 2v20 4939v130 5Cn 4192v150",
  "56398Cn 2v20 65534Cn 2v20 65534Cn 2v20 65534Cn 2v20 65534Cn 2v20 65534Cn 2v20 65534Cn 2v20",
  "65534Cn 2v20 65534Cn 2v20 65534Cn 2v20 65534Cn 2v20 Cn v31 30Cn 96v31 128Cn 240v40 65038Cn",
  "131074v20"]

/-- The versions, each by both its names, in order. -/
def versions : List (List String) := [
  ["1.1", "v11"], ["2.0", "v20"], ["2.1", "v21"], ["3.0", "v30"], ["3.1", "v31"], ["3.2", "v32"],
  ["4.0", "v40"], ["4.1", "v41"], ["5.0", "v50"], ["5.1", "v51"], ["5.2", "v52"], ["6.0", "v60"],
  ["6.1", "v61"], ["6.2", "v62"], ["6.3", "v63"], ["7.0", "v70"], ["8.0", "v80"], ["9.0", "v90"],
  ["10.0", "v100"], ["11.0", "v110"], ["12.0", "v120"], ["12.1", "v121"], ["13.0", "v130"],
  ["14.0", "v140"], ["15.0", "v150"], ["15.1", "v151"], ["16.0", "v160"]]

/-- The characters that were assigned when a version was published. -/
def assignedIn? (name : String) : Option Ranges :=
  if versions.any (·.contains name) then
    let later := versions.dropWhile fun names => !names.contains name
    let known := versions.take (versions.length + 1 - later.length)
    some (withValue (runsOf ageTable) fun age => known.any (·.contains age))
  else none

end Promptbook.Character
