import CloudSteward.Text.Runs

/-!
# How characters are written

In which direction a character is written, whether it joins its neighbours, and
whether it is a mark on the one before it.  The tables tell this of the characters
that may stand in the name of a host; of others they say nothing of use.
-/

namespace CloudSteward.Text

/-- How a character takes part in the direction of a line. -/
inductive Direction where
  | leftToRight
  | rightToLeft
  /-- A digit whose number is written as in Arabic. -/
  | arabicDigit
  /-- A digit whose number is written as in Latin. -/
  | latinDigit
  /-- A mark, which goes with the character before it. -/
  | mark
  | neutral
  /-- A character that ends or embeds a line. -/
  | other
deriving DecidableEq, Repr

/-- The directions of characters. -/
def directionRows : List String := [
    "0:O 9:X E:O 1C:X 21:O 30:E 3A:O 61:L 7B:O DF:L F7:O F8:L 2B9:O 2BB:L 2C2:O 2D0:L 2D2:O",
    "2EE:L 2EF:O 300:N 371:L 375:O 377:L 3F6:O 3F8:L 483:N 48B:L 58A:O 591:N 5BE:R 5BF:N 5C0:R",
    "5C1:N 5C3:R 5C4:N 5C6:R 5C7:N 5D0:R 606:O 608:R 609:O 60B:R 60C:O 60D:R 60E:O 610:N 61B:R",
    "64B:N 660:A 66A:O 66B:A 66D:R 670:N 671:R 6D6:N 6DE:O 6DF:N 6E5:R 6E7:N 6E9:O 6EA:N 6EE:R",
    "6F0:E 6FA:R 711:N 712:R 730:N 74D:R 7A6:N 7B1:R 7EB:N 7F4:R 7F6:O 7FA:R 7FD:N 7FE:R 816:N",
    "81A:R 81B:N 824:R 825:N 828:R 829:N 830:R 859:N 85E:R 897:N 8A0:R 8CA:N 903:L 93A:N 93B:L",
    "93C:N 93D:L 941:N 949:L 94D:N 94E:L 951:N 960:L 962:N 964:L 981:N 982:L 9BC:N 9BD:L 9C1:N",
    "9C7:L 9CD:N 9CE:L 9E2:N 9E6:L 9F2:O 9F4:L 9FB:O 9FC:L 9FE:N A03:L A3C:N A3E:L A41:N A5C:L",
    "A70:N A72:L A75:N A76:L A81:N A83:L ABC:N ABD:L AC1:N AC9:L ACD:N AD0:L AE2:N AE6:L AF1:O",
    "AF9:L AFA:N B02:L B3C:N B3D:L B3F:N B40:L B41:N B47:L B4D:N B57:L B62:N B66:L B82:N B83:L",
    "BC0:N BC1:L BCD:N BD0:L BF3:O C00:N C01:L C04:N C05:L C3C:N C3D:L C3E:N C41:L C46:N C58:L",
    "C62:N C66:L C78:O C7F:L C81:N C82:L CBC:N CBD:L CCC:N CD5:L CE2:N CE6:L D00:N D02:L D3B:N",
    "D3D:L D41:N D46:L D4D:N D4E:L D62:N D66:L D81:N D82:L DCA:N DCF:L DD2:N DD8:L E31:N E32:L",
    "E34:N E3F:O E40:L E47:N E4F:L EB1:N EB2:L EB4:N EBD:L EC8:N ED0:L F18:N F1A:L F35:N F36:L",
    "F37:N F38:L F39:N F3A:O F3E:L F71:N F7F:L F80:N F85:L F86:N F88:L F8D:N FBE:L FC6:N FC7:L",
    "102D:N 1031:L 1032:N 1038:L 1039:N 103B:L 103D:N 103F:L 1058:N 105A:L 105E:N 1061:L 1071:N",
    "1075:L 1082:N 1083:L 1085:N 1087:L 108D:N 108E:L 109D:N 109E:L 135D:N 1360:L 1390:O 13A0:L",
    "1400:O 1401:L 169B:O 16A0:L 1712:N 1715:L 1732:N 1734:L 1752:N 1760:L 1772:N 1780:L 17B7:N",
    "17BE:L 17C6:N 17C7:L 17C9:N 17D4:L 17DB:O 17DC:L 17DD:N 17E0:L 17F0:O 1810:L 1885:N 1887:L",
    "18A9:N 18AA:L 1920:N 1923:L 1927:N 1929:L 1932:N 1933:L 1939:N 1940:O 1946:L 19DE:O 1A00:L",
    "1A17:N 1A19:L 1A1B:N 1A1E:L 1A56:N 1A57:L 1A58:N 1A61:L 1A62:N 1A63:L 1A65:N 1A6D:L 1A73:N",
    "1A80:L 1AB0:N 1B04:L 1B34:N 1B35:L 1B36:N 1B3B:L 1B3C:N 1B3D:L 1B42:N 1B43:L 1B4E:O 1B50:L",
    "1B6B:N 1B74:L 1B7F:O 1B80:N 1B82:L 1BA2:N 1BA6:L 1BA8:N 1BAA:L 1BAB:N 1BAE:L 1BE6:N 1BE7:L",
    "1BE8:N 1BEA:L 1BED:N 1BEE:L 1BEF:N 1BF2:L 1C2C:N 1C34:L 1C36:N 1C3B:L 1CD0:N 1CD3:L 1CD4:N",
    "1CE1:L 1CE2:N 1CE9:L 1CED:N 1CEE:L 1CF4:N 1CF5:L 1CF8:N 1CFA:L 1DC0:N 1E01:L 200C:O 20D0:N",
    "2104:O 214E:L 218A:O 2336:L 237B:O 2395:L 2396:O 26AC:L 26AD:O 2800:L 2900:O 2C30:L 2CE5:O",
    "2CEC:L 2CEF:N 2CF3:L 2CF9:O 2D00:L 2D7F:N 2D80:L 2DE0:N 2E00:O 3005:L 3008:O 3021:L 302A:N",
    "302E:L 3030:O 3031:L 3037:O 303B:L 303D:O 3041:L 3099:N 309D:L 30A0:O 30A1:L 30FB:O 30FC:L",
    "31C0:O 31F0:L 4DC0:O 4E00:L A490:O A4D0:L A60D:O A610:L A66F:N A673:O A674:N A67E:O A681:L",
    "A69E:N A6A0:L A6F0:N A6F2:L A700:O A723:L A788:O A789:L A802:N A803:L A806:N A807:L A80B:N",
    "A80C:L A825:N A827:L A828:O A82C:N A830:L A838:O A840:L A874:O A880:L A8C4:N A8CE:L A8E0:N",
    "A8F2:L A8FF:N A900:L A926:N A92E:L A947:N A952:L A980:N A983:L A9B3:N A9B4:L A9B6:N A9BA:L",
    "A9BC:N A9BE:L A9E5:N A9E6:L AA29:N AA2F:L AA31:N AA33:L AA35:N AA40:L AA43:N AA44:L AA4C:N",
    "AA4D:L AA7C:N AA7D:L AAB0:N AAB1:L AAB2:N AAB5:L AAB7:N AAB9:L AABE:N AAC0:L AAC1:N AAC2:L",
    "AAEC:N AAEE:L AAF6:N AB01:L AB6A:O ABC0:L ABE5:N ABE6:L ABE8:N ABE9:L ABED:N ABF0:L FB1E:N",
    "FBB2:R FD3E:O FD90:R FDCF:O FE20:N FE45:O FE73:R 10000:L 10101:O 10102:L 10140:O 1018D:L",
    "10190:O 101D0:L 101FD:N 10280:L 102E0:N 102E1:E 10300:L 10376:N 10380:L 10800:R 1091F:O",
    "10920:R 10A01:N 10A10:R 10A38:N 10A40:R 10AE5:N 10AEB:R 10B39:O 10B40:R 10D24:N 10D30:A",
    "10D40:R 10D69:N 10D6E:R 10E60:A 10E80:R 10EAB:N 10EAD:R 10EFA:N 10F00:R 10F46:N 10F51:R",
    "10F82:N 10F86:R 11000:L 11001:N 11002:L 11038:N 11047:L 11052:O 11066:L 11070:N 11071:L",
    "11073:N 11075:L 1107F:N 11082:L 110B3:N 110B7:L 110B9:N 110BB:L 110C2:N 110D0:L 11100:N",
    "11103:L 11127:N 1112C:L 1112D:N 11136:L 11173:N 11174:L 11180:N 11182:L 111B6:N 111BF:L",
    "111C9:N 111CD:L 111CF:N 111D0:L 1122F:N 11232:L 11234:N 11235:L 11236:N 11238:L 1123E:N",
    "1123F:L 11241:N 11280:L 112DF:N 112E0:L 112E3:N 112F0:L 11300:N 11302:L 1133B:N 1133D:L",
    "11340:N 11341:L 11366:N 11380:L 113BB:N 113C2:L 113CE:N 113CF:L 113D0:N 113D1:L 113D2:N",
    "113D3:L 113D4:O 113E1:N 11400:L 11438:N 11440:L 11442:N 11445:L 11446:N 11447:L 1145E:N",
    "1145F:L 114B3:N 114B9:L 114BA:N 114BB:L 114BF:N 114C1:L 114C2:N 114C4:L 115B2:N 115B8:L",
    "115BC:N 115BE:L 115BF:N 115C1:L 115DC:N 11600:L 11633:N 1163B:L 1163D:N 1163E:L 1163F:N",
    "11641:L 11660:O 11680:L 116AB:N 116AC:L 116AD:N 116AE:L 116B0:N 116B6:L 116B7:N 116B8:L",
    "1171D:N 11720:L 11722:N 11726:L 11727:N 11730:L 1182F:N 11838:L 11839:N 1183B:L 1193B:N",
    "1193D:L 1193E:N 1193F:L 11943:N 11944:L 119D4:N 119DC:L 119E0:N 119E1:L 11A01:N 11A07:L",
    "11A09:N 11A0B:L 11A33:N 11A39:L 11A3B:N 11A3F:L 11A47:N 11A50:L 11A51:N 11A57:L 11A59:N",
    "11A5C:L 11A8A:N 11A97:L 11A98:N 11A9A:L 11B60:N 11B61:L 11B62:N 11B65:L 11B66:N 11B67:L",
    "11BE1:O 11BF0:L 11C30:N 11C3E:L 11C92:N 11CA9:L 11CAA:N 11CB1:L 11CB2:N 11CB4:L 11CB5:N",
    "11D00:L 11D31:N 11D46:L 11D47:N 11D50:L 11D90:N 11D93:L 11D95:N 11D96:L 11D97:N 11D98:L",
    "11EF3:N 11EF5:L 11F00:N 11F02:L 11F36:N 11F3E:L 11F40:N 11F41:L 11F42:N 11F43:L 11F5A:N",
    "11FB0:L 11FD5:O 11FFF:L 13440:N 13441:L 13447:N 13460:L 1611E:N 1612A:L 1612D:N 16130:L",
    "16AF0:N 16AF5:L 16B30:N 16B37:L 16D6D:O 16D70:L 16F4F:N 16F50:L 16F8F:N 16F93:L 16FE2:O",
    "16FE3:L 16FE4:N 16FF0:L 1BC9D:N 1BC9F:L 1CC00:O 1CF00:N 1CF50:L 1D167:N 1D16A:L 1D17B:N",
    "1D183:L 1D185:N 1D18C:L 1D1AA:N 1D1AE:L 1D1E9:O 1D242:N 1D245:O 1D2C0:L 1D300:O 1D360:L",
    "1DA00:N 1DA37:L 1DA3B:N 1DA6D:L 1DA75:N 1DA76:L 1DA84:N 1DA85:L 1DA9B:N 1DF00:L 1E000:N",
    "1E100:L 1E130:N 1E137:L 1E2AE:N 1E2C0:L 1E2EC:N 1E2F0:L 1E2FF:O 1E4D0:L 1E4EC:N 1E4F0:L",
    "1E5EE:N 1E5F0:L 1E5FF:O 1E6C0:L 1E6E3:N 1E6E4:L 1E6E6:N 1E6E7:L 1E6EE:N 1E6F0:L 1E6F5:N",
    "1E6FE:L 1E800:R 1E8D0:N 1E922:R 1E944:N 1E94B:R 1EEF0:O 1F150:L 1F16D:O 1F170:L 1F1AD:O",
    "1F1E6:L 1F260:O 20000:L"]

/-- The directions of characters. -/
def directions : Runs Direction :=
  .ofRows (fun _ value => match value with
    | ['L'] => .leftToRight
    | ['R'] => .rightToLeft
    | ['A'] => .arabicDigit
    | ['E'] => .latinDigit
    | ['N'] => .mark
    | ['O'] => .neutral
    | _ => .other) directionRows

/-- The direction of a character. -/
def direction (c : Char) : Direction :=
  (directions.get? c).getD .other

/-- How a letter joins its neighbours in a cursive script. -/
inductive Joining where
  /-- With both of them. -/
  | both
  /-- With the one before it. -/
  | before
  /-- With the one behind it. -/
  | behind
  /-- Not at all, but its neighbours join past it. -/
  | past
  | never
deriving DecidableEq, Repr

/-- How characters join. -/
def joiningRows : List String := [
    "0:U 300:T 371:U 483:T 48B:U 591:T 5BE:U 5BF:T 5C0:U 5C1:T 5C3:U 5C4:T 5C6:U 5C7:T 5D0:U",
    "610:T 61B:U 620:D 621:U 622:R 626:D 627:R 628:D 629:R 62A:D 62F:R 633:D 640:U 641:D 648:R",
    "649:D 64B:T 660:U 66E:D 670:T 671:R 674:U 679:D 688:R 69A:D 6C0:R 6C1:D 6C3:R 6CC:D 6CD:R",
    "6CE:D 6CF:R 6D0:D 6D2:R 6D4:U 6D5:R 6D6:T 6DE:U 6DF:T 6E5:U 6E7:T 6E9:U 6EA:T 6EE:R 6F0:U",
    "6FA:D 6FD:U 6FF:D 700:U 710:R 711:T 712:D 715:R 71A:D 71E:R 71F:D 728:R 729:D 72A:R 72B:D",
    "72C:R 72D:D 72F:R 730:T 74D:R 74E:D 759:R 75C:D 76B:R 76D:D 771:R 772:D 773:R 775:D 778:R",
    "77A:D 780:U 7A6:T 7B1:U 7CA:D 7EB:T 7F4:U 7FD:T 7FE:U 816:T 81A:U 81B:T 824:U 825:T 828:U",
    "829:T 830:U 840:R 841:D 846:R 848:D 849:R 84A:D 854:R 855:D 856:R 859:T 85E:U 860:D 861:U",
    "862:D 866:U 867:R 868:D 869:R 883:U 886:D 887:U 889:D 88E:R 88F:U 897:T 8A0:D 8AA:R 8AD:U",
    "8AE:R 8AF:D 8B1:R 8B3:D 8B9:R 8BA:D 8C9:U 8CA:T 903:U 93A:T 93B:U 93C:T 93D:U 941:T 949:U",
    "94D:T 94E:U 951:T 960:U 962:T 964:U 981:T 982:U 9BC:T 9BD:U 9C1:T 9C7:U 9CD:T 9CE:U 9E2:T",
    "9E6:U 9FE:T A03:U A3C:T A3E:U A41:T A5C:U A70:T A72:U A75:T A76:U A81:T A83:U ABC:T ABD:U",
    "AC1:T AC9:U ACD:T AD0:U AE2:T AE6:U AFA:T B02:U B3C:T B3D:U B3F:T B40:U B41:T B47:U B4D:T",
    "B57:U B62:T B66:U B82:T B83:U BC0:T BC1:U BCD:T BD0:U C00:T C01:U C04:T C05:U C3C:T C3D:U",
    "C3E:T C41:U C46:T C58:U C62:T C66:U C81:T C82:U CBC:T CBD:U CBF:T CC0:U CC6:T CC7:U CCC:T",
    "CD5:U CE2:T CE6:U D00:T D02:U D3B:T D3D:U D41:T D46:U D4D:T D4E:U D62:T D66:U D81:T D82:U",
    "DCA:T DCF:U DD2:T DD8:U E31:T E32:U E34:T E3F:U E47:T E4F:U EB1:T EB2:U EB4:T EBD:U EC8:T",
    "ED0:U F18:T F1A:U F35:T F36:U F37:T F38:U F39:T F3A:U F71:T F7F:U F80:T F85:U F86:T F88:U",
    "F8D:T FBE:U FC6:T FC7:U 102D:T 1031:U 1032:T 1038:U 1039:T 103B:U 103D:T 103F:U 1058:T",
    "105A:U 105E:T 1061:U 1071:T 1075:U 1082:T 1083:U 1085:T 1087:U 108D:T 108E:U 109D:T 109E:U",
    "135D:T 1360:U 1712:T 1715:U 1732:T 1734:U 1752:T 1760:U 1772:T 1780:U 17B7:T 17BE:U 17C6:T",
    "17C7:U 17C9:T 17D4:U 17DD:T 17E0:U 1807:D 1808:U 1820:D 1880:U 1885:T 1887:D 18A9:T 18AA:D",
    "18B0:U 1920:T 1923:U 1927:T 1929:U 1932:T 1933:U 1939:T 1940:U 1A17:T 1A19:U 1A1B:T 1A1E:U",
    "1A56:T 1A57:U 1A58:T 1A61:U 1A62:T 1A63:U 1A65:T 1A6D:U 1A73:T 1A80:U 1AB0:T 1B04:U 1B34:T",
    "1B35:U 1B36:T 1B3B:U 1B3C:T 1B3D:U 1B42:T 1B43:U 1B6B:T 1B74:U 1B80:T 1B82:U 1BA2:T 1BA6:U",
    "1BA8:T 1BAA:U 1BAB:T 1BAE:U 1BE6:T 1BE7:U 1BE8:T 1BEA:U 1BED:T 1BEE:U 1BEF:T 1BF2:U 1C2C:T",
    "1C34:U 1C36:T 1C3B:U 1CD0:T 1CD3:U 1CD4:T 1CE1:U 1CE2:T 1CE9:U 1CED:T 1CEE:U 1CF4:T 1CF5:U",
    "1CF8:T 1CFA:U 1DC0:T 1E01:U 20D0:T 2104:U 2CEF:T 2CF3:U 2D7F:T 2D80:U 2DE0:T 2E00:U 302A:T",
    "302E:U 3099:T 309D:U A66F:T A673:U A674:T A67E:U A69E:T A6A0:U A6F0:T A6F2:U A802:T A803:U",
    "A806:T A807:U A80B:T A80C:U A825:T A827:U A82C:T A830:U A840:D A872:L A873:U A8C4:T A8CE:U",
    "A8E0:T A8F2:U A8FF:T A900:U A926:T A92E:U A947:T A952:U A980:T A983:U A9B3:T A9B4:U A9B6:T",
    "A9BA:U A9BC:T A9BE:U A9E5:T A9E6:U AA29:T AA2F:U AA31:T AA33:U AA35:T AA40:U AA43:T AA44:U",
    "AA4C:T AA4D:U AA7C:T AA7D:U AAB0:T AAB1:U AAB2:T AAB5:U AAB7:T AAB9:U AABE:T AAC0:U AAC1:T",
    "AAC2:U AAEC:T AAEE:U AAF6:T AB01:U ABE5:T ABE6:U ABE8:T ABE9:U ABED:T ABF0:U FB1E:T FBB2:U",
    "FE20:T FE45:U 101FD:T 10280:U 102E0:T 102E1:U 10376:T 10380:U 10A01:T 10A10:U 10A38:T",
    "10A40:U 10AC0:D 10AC5:R 10AC6:U 10AC7:R 10AC8:U 10AC9:R 10ACB:U 10ACD:L 10ACE:R 10AD3:D",
    "10AD7:L 10AD8:D 10ADD:R 10ADE:D 10AE1:R 10AE2:U 10AE4:R 10AE5:T 10AEB:D 10AEF:R 10AF0:U",
    "10B80:D 10B81:R 10B82:D 10B83:R 10B86:D 10B89:R 10B8A:D 10B8C:R 10B8D:D 10B8E:R 10B90:D",
    "10B91:R 10B99:U 10BA9:R 10BAD:D 10BAF:U 10D00:L 10D01:D 10D22:R 10D23:D 10D24:T 10D30:U",
    "10D69:T 10D6E:U 10EAB:T 10EAD:U 10EFA:T 10F00:U 10F30:D 10F33:R 10F34:D 10F45:U 10F46:T",
    "10F51:D 10F54:R 10F55:U 10F70:D 10F74:R 10F76:D 10F82:T 10F86:U 10FB0:D 10FB1:U 10FB2:D",
    "10FB4:R 10FB7:U 10FB8:D 10FB9:R 10FBB:D 10FBD:R 10FBE:D 10FC0:U 10FC1:D 10FC2:R 10FC4:D",
    "10FC5:U 10FC9:R 10FCA:D 10FCB:L 10FE0:U 11001:T 11002:U 11038:T 11047:U 11070:T 11071:U",
    "11073:T 11075:U 1107F:T 11082:U 110B3:T 110B7:U 110B9:T 110BB:U 110C2:T 110D0:U 11100:T",
    "11103:U 11127:T 1112C:U 1112D:T 11136:U 11173:T 11174:U 11180:T 11182:U 111B6:T 111BF:U",
    "111C9:T 111CD:U 111CF:T 111D0:U 1122F:T 11232:U 11234:T 11235:U 11236:T 11238:U 1123E:T",
    "1123F:U 11241:T 11280:U 112DF:T 112E0:U 112E3:T 112F0:U 11300:T 11302:U 1133B:T 1133D:U",
    "11340:T 11341:U 11366:T 11380:U 113BB:T 113C2:U 113CE:T 113CF:U 113D0:T 113D1:U 113D2:T",
    "113D3:U 113E1:T 11400:U 11438:T 11440:U 11442:T 11445:U 11446:T 11447:U 1145E:T 1145F:U",
    "114B3:T 114B9:U 114BA:T 114BB:U 114BF:T 114C1:U 114C2:T 114C4:U 115B2:T 115B8:U 115BC:T",
    "115BE:U 115BF:T 115C1:U 115DC:T 11600:U 11633:T 1163B:U 1163D:T 1163E:U 1163F:T 11641:U",
    "116AB:T 116AC:U 116AD:T 116AE:U 116B0:T 116B6:U 116B7:T 116B8:U 1171D:T 11720:U 11722:T",
    "11726:U 11727:T 11730:U 1182F:T 11838:U 11839:T 1183B:U 1193B:T 1193D:U 1193E:T 1193F:U",
    "11943:T 11944:U 119D4:T 119DC:U 119E0:T 119E1:U 11A01:T 11A0B:U 11A33:T 11A39:U 11A3B:T",
    "11A3F:U 11A47:T 11A50:U 11A51:T 11A57:U 11A59:T 11A5C:U 11A8A:T 11A97:U 11A98:T 11A9A:U",
    "11B60:T 11B61:U 11B62:T 11B65:U 11B66:T 11B67:U 11C30:T 11C3E:U 11C3F:T 11C40:U 11C92:T",
    "11CA9:U 11CAA:T 11CB1:U 11CB2:T 11CB4:U 11CB5:T 11D00:U 11D31:T 11D46:U 11D47:T 11D50:U",
    "11D90:T 11D93:U 11D95:T 11D96:U 11D97:T 11D98:U 11EF3:T 11EF5:U 11F00:T 11F02:U 11F36:T",
    "11F3E:U 11F40:T 11F41:U 11F42:T 11F43:U 11F5A:T 11FB0:U 13440:T 13441:U 13447:T 13460:U",
    "1611E:T 1612A:U 1612D:T 16130:U 16AF0:T 16AF5:U 16B30:T 16B37:U 16F4F:T 16F50:U 16F8F:T",
    "16F93:U 16FE4:T 16FF0:U 1BC9D:T 1BC9F:U 1CF00:T 1CF50:U 1D167:T 1D16A:U 1D17B:T 1D183:U",
    "1D185:T 1D18C:U 1D1AA:T 1D1AE:U 1D242:T 1D245:U 1DA00:T 1DA37:U 1DA3B:T 1DA6D:U 1DA75:T",
    "1DA76:U 1DA84:T 1DA85:U 1DA9B:T 1DF00:U 1E000:T 1E100:U 1E130:T 1E137:U 1E2AE:T 1E2C0:U",
    "1E2EC:T 1E2F0:U 1E4EC:T 1E4F0:U 1E5EE:T 1E5F0:U 1E6E3:T 1E6E4:U 1E6E6:T 1E6E7:U 1E6EE:T",
    "1E6F0:U 1E6F5:T 1E6FE:U 1E8D0:T 1E922:D 1E944:T 1E950:U"]

/-- How characters join. -/
def joinings : Runs Joining :=
  .ofRows (fun _ value => match value with
    | ['D'] => .both
    | ['R'] => .before
    | ['L'] => .behind
    | ['T'] => .past
    | _ => .never) joiningRows

/-- How a character joins. -/
def joining (c : Char) : Joining :=
  (joinings.get? c).getD .never

/-- Where marks begin and end. -/
def markRows : List String := [
    "0:- 300:M 371:- 483:M 48B:- 591:M 5BE:- 5BF:M 5C0:- 5C1:M 5C3:- 5C4:M 5C6:- 5C7:M 5D0:-",
    "610:M 61B:- 64B:M 660:- 670:M 671:- 6D6:M 6DE:- 6DF:M 6E5:- 6E7:M 6E9:- 6EA:M 6EE:- 711:M",
    "712:- 730:M 74D:- 7A6:M 7B1:- 7EB:M 7F4:- 7FD:M 7FE:- 816:M 81A:- 81B:M 824:- 825:M 828:-",
    "829:M 830:- 859:M 85E:- 897:M 8A0:- 8CA:M 904:- 93A:M 93D:- 93E:M 950:- 951:M 960:- 962:M",
    "964:- 981:M 985:- 9BC:M 9BD:- 9BE:M 9CE:- 9D7:M 9E0:- 9E2:M 9E6:- 9FE:M A05:- A3C:M A5C:-",
    "A70:M A72:- A75:M A76:- A81:M A85:- ABC:M ABD:- ABE:M AD0:- AE2:M AE6:- AFA:M B05:- B3C:M",
    "B3D:- B3E:M B5F:- B62:M B66:- B82:M B83:- BBE:M BD0:- BD7:M BE6:- C00:M C05:- C3C:M C3D:-",
    "C3E:M C58:- C62:M C66:- C81:M C84:- CBC:M CBD:- CBE:M CDC:- CE2:M CE6:- CF3:M D04:- D3B:M",
    "D3D:- D3E:M D4E:- D57:M D58:- D62:M D66:- D81:M D85:- DCA:M DE6:- DF2:M DF4:- E31:M E32:-",
    "E34:M E3F:- E47:M E4F:- EB1:M EB2:- EB4:M EBD:- EC8:M ED0:- F18:M F1A:- F35:M F36:- F37:M",
    "F38:- F39:M F3A:- F3E:M F40:- F71:M F85:- F86:M F88:- F8D:M FBE:- FC6:M FC7:- 102B:M",
    "103F:- 1056:M 105A:- 105E:M 1061:- 1062:M 1065:- 1067:M 106E:- 1071:M 1075:- 1082:M 108E:-",
    "108F:M 1090:- 109A:M 109E:- 135D:M 1360:- 1712:M 171F:- 1732:M 1735:- 1752:M 1760:- 1772:M",
    "1780:- 17B6:M 17D4:- 17DD:M 17E0:- 1885:M 1887:- 18A9:M 18AA:- 1920:M 1940:- 1A17:M 1A1E:-",
    "1A55:M 1A80:- 1AB0:M 1B05:- 1B34:M 1B45:- 1B6B:M 1B74:- 1B80:M 1B83:- 1BA1:M 1BAE:- 1BE6:M",
    "1BFC:- 1C24:M 1C3B:- 1CD0:M 1CD3:- 1CD4:M 1CE9:- 1CED:M 1CEE:- 1CF4:M 1CF5:- 1CF7:M 1CFA:-",
    "1DC0:M 1E01:- 20D0:M 2104:- 2CEF:M 2CF3:- 2D7F:M 2D80:- 2DE0:M 2E00:- 302A:M 3030:- 3099:M",
    "309D:- A66F:M A673:- A674:M A67E:- A69E:M A6A0:- A6F0:M A6F2:- A802:M A803:- A806:M A807:-",
    "A80B:M A80C:- A823:M A828:- A82C:M A830:- A880:M A882:- A8B4:M A8CE:- A8E0:M A8F2:- A8FF:M",
    "A900:- A926:M A92E:- A947:M A95F:- A980:M A984:- A9B3:M A9C1:- A9E5:M A9E6:- AA29:M AA40:-",
    "AA43:M AA44:- AA4C:M AA50:- AA7B:M AA7E:- AAB0:M AAB1:- AAB2:M AAB5:- AAB7:M AAB9:- AABE:M",
    "AAC0:- AAC1:M AAC2:- AAEB:M AAF0:- AAF5:M AB01:- ABE3:M ABEB:- ABEC:M ABF0:- FB1E:M FBB2:-",
    "FE20:M FE45:- 101FD:M 10280:- 102E0:M 102E1:- 10376:M 10380:- 10A01:M 10A10:- 10A38:M",
    "10A40:- 10AE5:M 10AEB:- 10D24:M 10D30:- 10D69:M 10D6E:- 10EAB:M 10EAD:- 10EFA:M 10F00:-",
    "10F46:M 10F51:- 10F82:M 10F86:- 11000:M 11003:- 11038:M 11047:- 11070:M 11071:- 11073:M",
    "11075:- 1107F:M 11083:- 110B0:M 110BB:- 110C2:M 110D0:- 11100:M 11103:- 11127:M 11136:-",
    "11145:M 11147:- 11173:M 11174:- 11180:M 11183:- 111B3:M 111C1:- 111C9:M 111CD:- 111CE:M",
    "111D0:- 1122C:M 11238:- 1123E:M 1123F:- 11241:M 11280:- 112DF:M 112F0:- 11300:M 11305:-",
    "1133B:M 1133D:- 1133E:M 11350:- 11357:M 1135D:- 11362:M 11380:- 113B8:M 113D1:- 113D2:M",
    "113D3:- 113E1:M 11400:- 11435:M 11447:- 1145E:M 1145F:- 114B0:M 114C4:- 115AF:M 115C1:-",
    "115DC:M 11600:- 11630:M 11641:- 116AB:M 116B8:- 1171D:M 11730:- 1182C:M 1183B:- 11930:M",
    "1193F:- 11940:M 11941:- 11942:M 11944:- 119D1:M 119E1:- 119E4:M 11A00:- 11A01:M 11A0B:-",
    "11A33:M 11A3A:- 11A3B:M 11A3F:- 11A47:M 11A50:- 11A51:M 11A5C:- 11A8A:M 11A9A:- 11B60:M",
    "11BC0:- 11C2F:M 11C40:- 11C92:M 11D00:- 11D31:M 11D46:- 11D47:M 11D50:- 11D8A:M 11D98:-",
    "11EF3:M 11EF7:- 11F00:M 11F02:- 11F03:M 11F04:- 11F34:M 11F43:- 11F5A:M 11FB0:- 13440:M",
    "13441:- 13447:M 13460:- 1611E:M 16130:- 16AF0:M 16AF5:- 16B30:M 16B37:- 16F4F:M 16F50:-",
    "16F51:M 16F93:- 16FE4:M 16FF2:- 1BC9D:M 1BC9F:- 1CF00:M 1CF50:- 1D165:M 1D16A:- 1D16D:M",
    "1D183:- 1D185:M 1D18C:- 1D1AA:M 1D1AE:- 1D242:M 1D245:- 1DA00:M 1DA37:- 1DA3B:M 1DA6D:-",
    "1DA75:M 1DA76:- 1DA84:M 1DA85:- 1DA9B:M 1DF00:- 1E000:M 1E100:- 1E130:M 1E137:- 1E2AE:M",
    "1E2C0:- 1E2EC:M 1E2F0:- 1E4EC:M 1E4F0:- 1E5EE:M 1E5F0:- 1E6E3:M 1E6E4:- 1E6E6:M 1E6E7:-",
    "1E6EE:M 1E6F0:- 1E6F5:M 1E6FE:- 1E8D0:M 1E922:- 1E944:M 1E94B:-"]

/-- Where marks begin and end. -/
def marks : Runs Bool :=
  .ofRows (fun _ value => value = ['M']) markRows

/-- Whether a character is a mark on the one before it. -/
def isMark (c : Char) : Bool :=
  (marks.get? c).getD false

end CloudSteward.Text
