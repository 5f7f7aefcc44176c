import DexLens.Network.Generate.Expected

/-! # All graphs with up to seven nodes

Each letter of a word is an edge, in the order of the pairs of numbers from one to seven; a dash is a graph without
edges. A digit, a capital letter or a sign is a sequence of edges that many words share.
-/

namespace DexLens.Network.Atlas

def pairs : List (Nat × Nat) := (List.range 7).flatMap fun i => ((List.range 7).filter (i < ·)).map (i, ·)

def edge? (c : Char) : Option (Nat × Nat) := if 'a' ≤ c then pairs[c.toNat - 'a'.toNat]? else none

def shared : List String := Text.words
 "aglp hgbesp hi qrst de ag lm aglpse no jidenmpq abcdef anbchlgj jk aglpd aglcdimp dc aglpdhimc agbchl pq abl cd
  pdagleqcj ef phgbesmj su imldhs hlijnq ih st pqrstu ai lg aglpdneb agl jklmno sn uo mn abcdghilm bcpijsa lp rt
  sdhimcq"

def letters (c : Char) : List Char := if '0' ≤ c && c ≤ 'Z' then (shared.getD (c.toNat - 48) "").toList else [c]

/-- The words for each number of nodes. -/
def words : List String := [
 "-",
 "-",
 "- a",
 "- g ab abg",
 "- l lh al Oh chl 5c Ohc Qc abcgl A",
 "- p ga bp gab plh Xd gap pghl cQ pdim dhpl Oad gabp cbl5 mplid Qdb dgplh Nmlh = N?hp Nmlhg Nmlhp ap6di ?pOa gbc2d
  dgpl2m imlhpD =2 gbc2dm Nmlhdpc > apDg26 Vp",
 "- s cs hg hgl ced pse pjn gcs Dse cqsd jqne phdl bhgq hgle gced sgep bdhq cqs4 qhXs qsXd pgdlh ipdgl = qsejn ijQ
  apbcq 5mhq pedlh gashl aeXs pjnD gcqsd cesBd imdlhp imdghl bsBdm Xd5c Kmlba nqspje pmdicq Bsjld mgpi4 ghcb4 bmighq
  ghcbdq qnbmph bpaqsc gcqs4 pgdlhe im4hl =j 7 hgl4s Ae imghlba =2 albchjn Ip Nmljng dbghqcl imOhsd Nmljns As edsbcla
  =ji adibclq im4hX bXSgi jadpOc im4hO =bj bigShq eqlb2p 1l 7c pdQeq gabcpsq ; > Aed ghcCqd ambnhOi =2j =2s anbdhOj
  =2e anbdhlcj bXSgiq Aes anbdhljq Iep =enb 9 7U 1ia =cne Ieg =sqj 7mj =jne 7in @ ;m ;d >s bigShqX ;s 9s Pc 1dN 1iaj
  As4 E 1lD 1lcm Pj 9b =eSq =cnej 7cU lWn 7cni @b @s @e 9sa =2sqj 1lDm 1lcU N4sphjO En Pji ambsJ =ejnqs 7mbhj Glc
  1iqna @bj ambgJc @es QZb 1iqnaj 2plbdSmej Gcia 9C 7Ujic 5blZp lhgbenmjciad 9Cs Gcial 5blhdmjesB Gciald 5blhdmjesBc
  7UjKbdq abDeg2j6nBs",
 "- u O sf dmb afe sfu Ou hud 8ug giS ajgi 58 pOa mdbu afem hHf ?8 Ofs ?2a 8uml mdbsf 8uga i?hg gadpl jenqs <Q jilog
  <gX gXsr Tgnp pHfa ?8u inurl K5u ?5u ?g8 upOa Ofus atslu <ungo K65 ?hgip nsmlro giSad gjsmbe 8umgl KO8 Hkjra ukjhci
  ?68 KOnu OrHn 8uKg s?6r ?huia KlnT rusign ahrusi 7 ?p8u rfoukt Uloga 5nKo 5r2s 5nuK aUTl dKg8 ugCd ?58 ahrois 8mKc
  ?6gu ?gnT p5nT s?r5 8uKa spOaf tusOa adlnur gadplu K65p gjsmben =2 gjsmbea ?68b K65o K6apr ?68p ?hrias ?huiap
  nsmlrog =bn nsmlroh K6bgf gjsmbeq =bq =bj XqUkt gjsmbec phgouji adiglqs rujg6s giHrln iphgoun crfabed <ghpid eufnjY
  id5cfs nTml5 i?hg< Ndsglk adiglL lnurgse ?25u 8umgah 8mKla oungNh ?2sgr 8usrga 8iga? ugi?hp idarlbe i?hgnk idalbeu
  aeurlbd NmXdu rOadis ajTgX OadHi nTgidh OadHn iCqer glruebs nTga? i?hg8 5nsdir 8?2a u?2ml gns?ro dphgnT Tgi?h
  idblrue ?pgnT 0Hf Ndnurl adSgjim iSgaedb ?2ap< iSgjuml hadmgisj blruecfd 5nsdbeu QhpUq blruecfs 5pjiUq qgpjiUt
  ?2apgn qgpjiUc dmbclnT lrunbesm edUjiB Oisjnur ns?roml ?2mlS u8X?m aelhnkou HrDmlb 7mj eof5nL ?25< bdiach< m?2a<
  ?pKjgk gbcqnXu m?2p< gbcqnupe QhmpL ugi?hap aultrofk tglusofk Qutrfo ?2akjn c6d58 glruebns 0n<o nmKc5o s?6Kr
  adigmsjr Cpigke sdNchko nmdNchk kgbNpls Cpigkq ?pKjok Oaesdbu s?2mlo Oadsion Qrsofk i?h58 Qusotk adbeurln ?6K8
  sphgotla aoXn<u OadHni i?hpg8 fdKcmln ?2mlau adlru8q nTm?O bgaesdfr Cgisqk kgbNplu kfajegX TgipDm kaejcpmb omdNBn
  5oujipl kpajOts mdNpruq imbfrces us?6K rusd5ni Cgisqt dploujig kfpjeglu ouqrpdN 7fj 7fm Cpigue dmlrusgj jmlcesgf
  unm?lK dNBTm auXteok gadSlru 7ok oungi?h 7uk 7fr dalinqtr ?2aoun @ ;m ;d >s bigShqX ;s 9s Pc 1dN 1iaj As4 E 1lD 1lcm
  Pj 9b =eSq =cnej 7cU lWn 7cni Aedf Aedo ghcCqdk ambhOi8 ambnhOik =2< =2jt anbdhO< =2L =2sr anbdhOjf =2ek bXSgiqo
  anbdhlcjf Aedu =2et =2so bXSgiqu ghcCdur =2F =rscm anbdhOju bXSgiqt ;t =2eo anbdhlcju anbshlcjo anbdhljqf AeH >u
  Iept =enbf Iepr ambnhOiu 9t 7Uo =2uk Iepo Iepf hgbeurkN =cnF Iegt =2H 7Ut 7Uu hgbeurkad =enbk =enbt Iego =cner =cneo
  anbjhOft 9k =2eu 7Uk 7Uf 7Ur hgbeurkam =sqjr =cnek 7mjt anbjhlctf =jnek Iegf qXSgifo =jnF =sqju =cnet hgbeurkas 7inu
  =sq< Iegr AeL =sqjf =jnet 7mjf anbqhljtf 7inf rguptFko Cpigoun Ipuf Ietr iHrOneb Kl4nLu 5orqsplb bejgmHrl 0Hf2 =s<f
  dNploujg Cpigqur url4abgs =q<f nurlbdsja mgiseatrl oungadKc Fkimlhju urlneNdb ?2mounl NsFrlbp 7fkr Qcisqft adignHrl
  ar4qugio oungDKp 7kuf dQcmHr 7mku =qsku 7fto ?pkujg8 @b @s @e 9sa =2sqj 1lDm N4sphjO 1lcU Pji En ambsJ =ejnqs 7mbhj
  5pbcUjiq 1iqna ;mo ;mk ;dk ;df ;dr >L bigShqXr ;so bigShqXo OiSbdaeu ;du bigShqXt ;H @u 9H Pcf Pco 9sk Pcr 1dNf 1ia<
  As4f Er Pcu 1lDr 1iajf ji4nmbqlo ;to Pjo 1iaju Pct 1lcmr As4o 9bu 1lDo ji4nmbqlf Ek 1lcmt ;tf Pju 1dNu 9bf 1iajo
  7cUo =eSqu =cnejf As4u >ut 1lDk Et =eSqt Eo =eSqf 7cUu =cne< Pjr pigShqlfo 0s<ton 7cUf =cnejr =cnejo ;ut 1lcmk 1lcmu
  9bk =eSqk 7cUk =cnejt lWnt 7cnif dKOkfeja lruebnjgms bghcfkjedi tgupsFkor auXtFkor Cpigenko Cpige8f tgupserkod
  5bXULk aDFg28 besmgjurlo CpigjFo 7otbd ?lnTmKp kgbNplush ugXsFkot auXtFkoq Qs4qnuk cbghpmdfue cbghpedfui auXtFkom
  gjTkni?h moqibrnadf mrqjbfnids dsiglcBku d5mBSro kgbNpluL 7rkuj Ndblrue8 =qjsku 7miku Cpigqnkt =nHfb bnjacqutdp
  7mjou eTlDmpK =ruqL ngXiekfjo 7otmj mliactfesj gnqDtr2s =ejnur adignHrlq 7ukom =eqnut 7frod 7ftur FkajgXts 7futb
  7fkur gbXijFku =q<tu 7nifu hcejgofdmt 7tkou cbghpmsetk auXteokmj nTm?la2 p2?5nT u8rDsKg 7fkum QcejLro 7infr @bj
  ambgJc @es QZb 1qnNj i<l8prLu rhgbeTjcka 9C 7Ujic @L @qt @nt @8 @nf Vpu 9sat =2sq< =2sqjt 9sak 1lDmo =2sqju 1lcUo
  N4sphjOk 1lcUr N4sphjOt d<l83u Enf 1lcUf Pjik N4sphjOu =2sqjf ambsJo N4sphjOr Pjio 1lcUu Enu ambsJu @H Enk Pjit Pjiu
  ambsJt 1lDmk @T =ejnqH 7mbh< =ejnqsk N4sphjOo 1lcUk fi<UoBru 1iqnak 7mbhju 7mbhjr Ent Pjir Glck 1iqnao ambsJf
  fi<UoBrs ufe<onqYs Cpigj8kh =jqktK i6fHhtcrp 7mtonb 7?bfr abnTgimXh siglrunmqeb =Ueots =kobfne Fkj8plLu Fkj8rqLp
  FgkmM =bUHf 0Hfmdbt Cpijnkoms 7jnmot 7ftobd =hqsiuk ?pmlhginT Fiklnp3 adHrOiUj ?pmokjnl2 auXsFkoY idahcjukg8 >Ht
  =bnurfe 7bdtfr =bnutF 7forD tHrqnlF5 bmsqhQrup pmKcalqnft Cjhnrfqsp dikfchjeulb aesigXmtor 7jqYu runlqsmgjad >jut
  ?lnTmK5 eacq8ts<r Cpigjntor lruebgajnmt =iqjtur =eqforu 7jutrk 7jukom QDpmktnq 7<tT cfgjmoBLu jutplbaFom =nqfTr
  Dml2jfkqs F2l8pLu b5chsqtofk iSgaeurlbd Cpikojqns FikUoBrs 7Yobd b5chsqtodi =ej8fk DKpamoung =eSqku iSga4urlq
  QDpmjHt Qs4jnqY ?2pjukg8 i?nHoghrl QDmsqfur nmqisacborf =eSqkf Dg<moqrH dBeQintu 64jiBaT i?pHoghrn Dmlhafunji
  Di<l8rH QDpmjsku iHrOaed8 =mqscuk dNpOkuqso 7jmoY 7oknic Dg<83 QsdqjYmc 4fh<6ors pmlcgsetkjf tr2dblaeun kogacpsqbdu
  QZpb rhgbeTjckaf 1qnNjm Gcial 5blhdmjesB @b< @btq ambgJck ambgJcr @eL @esk ambgJcf @esf @eso QZbk QZbt @bku 1jqnNk
  7Ujqcu rhgbeTjckN 7Ujqcr ambgJct 1jqnNo rhgbeTjckad 2plbdSmejr 2plbdSmejf @eH 7Ujicu 9Ct 9Cf rhgbeTjckas 9Cr 7Ujicf
  QZbu cfuqhktplors adsjimgktoX ilcmjeqpHY AmBerk Arfejim ouqOiSmdaj Hrp?hNq6 ?6K5e<f gCchmdSok >nLr ?6K5e<o
  gCchmdtons 5bcp4qLrf Ai4nT >tfeq QDim<fes ?6K5kfen sqptr6?5o ilcmjeqpHfr >kfej >hjut ?6K5sqY Qcpidseqfk ?6K5otej
  QDimS<u b5chmqktdpj 5bcXidnsfr e8rOadijub ?6K5tonq bajqrompSgi b5chdimpHr AkotBu ?6K5eufp >jnfr =qjsYku F2683
  =nufoe< auXsFkoYj =ejnqsku >jLu gbespjqnNrk dfh<l8qLu Fi<l8prH ambgtijnqcko QsdqjYmcp 1qnNku >jufk Dml2ajnkot
  Qcmesikqjo Qcmesijqkt Qcmesijqkf pgaDtmsorlj 6dfushjekrq ceg<moprLu cfi<6nrLu QsdBkroft ambkJct 1qnNrk pgeDimjorlt
  6sFkhrqj? cei<UopYu OeDitjorkf F2k6oqLu cegikmo3u cfi<UoBtu Fi<UoBY QcmesiBok QcmesiBku bfi<lnp3 F2k6nprH QciUeputq
  bfgijlM bf2jUBYu bf2j8p3 F2k6oBH Fg<6p3 c6djnkfrqL Fg263u ab<6M c6djnkfrqth 4fh<6nYu 6nifchrujdp 6infthrcjdq
  4fghkloqLu c6djnkfrhts rglcmFipujd cFg<moBL cFgiklnpLu cFg<6pLu ?2asmounlr QDinLroq 4fh<l8pL cmhdnjpsqkfo N4ukBlnro
  Cp4ktThq 7fkoYu rgfDimpjnL iRM 2R3u fij68M QZpbt Gciadk :68rH fi<6nM ci<UoM :8p3 fiRBrH f2j683u 9Csk QZpbu e2RpYu
  f2R3 uFts<rq85 :g2j6o pDK65frqs pDK65frqe pDK65tfeq F2UoM :g26qt Vpjuk dfhj683u Fik68BrH F2683u VBut FRp3 1qnNkuj
  >sFY 1qnNkjo :g2j6u 5mKclnjFko 8uspDKrgml cfi<UoBLu ml2?rkjLqg :g2Uqr :g26qu :g2lnrs :ghkUB bfi<lnM ngjspD6hrok
  dfi<l8BrH 1qnNdkt lWneukd AdnBetk lW8ueg sotpehlrudijc bf2j8M 9Cut 1qnNdft ?6Kaes<fr Fg<6M 1iqnaYj nWorghd
  5bclokjutsed FiRBY F2k683 5Kdlcbeutqm Fg2UoBYu GDluf nWorled Qs4jnqYmc afij68BYu afRp3 =ofenqLr =ufbnqLr pDrh65nqou
  =ejnqHY 5fKclkjopH :g28qt fglcmeripujqh QDitpSfrq Qrduftnqs< 4fi<l8prH 4fh<l8pLu lnurpsebgajmt gFts<rq8ap Cp4ktThqf
  4fg<lop3 lbcptjshnfkgi QDipSjuko 4fi<l8BY c6djnkfrhtsq 4fgijloBYu 4fh<6npYu bFgiklM peqft65kj8 bFg2oM c6dqnshNfrk
  lbcpijsfkYge 4fghkl8BL 4fghkUoBrs QDiqLounr aF268prH aF2683 Cp4ktThqg 7UjKbdq Gcialdk f2j68M :UoBYu f2RBLu cgi<UoM
  VprqL Vpokje Vpnqtf Gciadtf :g2<Bt :k8BLu :i83u phgbesajdiqntf 1qnNkjod :k8p3 6rdfphsecjqtk VButs 2Xdjabnqsgou
  cfiRBLu cfgijUoM FiRp3 afij68M Fg2UoM Vtnjer =ejnqsmcku dfgh<l8BLu df2RqrH F2RprH lbcpijgndheuta lbcpijSfkeghd
  uFts<rq85p :<8prH Cp4ktThqfr hmsdicenkrfTt ?6K5s<rF pmjdiqcntfrouk :ijlorLu 6rdsphnkufqta 4fh<6oBLu 4fg<6M
  6rdifhnHjqtc hmDiqentkrfT amDsqhntourkf :gknp3 :<63 6rdikhneusqfc 6Dsphnaufqtk 4fhRprH Dfgijl83u 4fghkUoBrH
  aFik68BrH adfhj683u 6rdishnekfqtc aF2683u 4fg2l83u 4fiRBru 6rdsqhncifkta 4f2RqY 4fgh<l8prL 4fgh<6oBtu Degi<l8pYu
  De2RYu 0Hfbeqhktm DF2Rrs abDeg2j6nBs 7UjKbdqk 7UjKbdqf :g2<Bru :<mM psDFYujq6ka psDFr2jq6kt >jenqsku psqaecmjhurfkot
  pH4frhtjq6ka bf2<6nM ksDFr2jq6ut psDetr2jq6un psDftr2jq6un Ajqpmorked CpKm?Ysqoj VBLur QDpmkonLfur aqh?pULourkf
  nsh4cmjirkfTt 7cbhturfok ncq4pmjitofurk 4fghk6nM ksDetr2fq6un paDetr2fk6un :<UoBY nsqdahmcitkfrou eBnahmcioutrfk
  psctakr2fe6un bcf2<UoBLu 4f2R3 peDtkr2fj6un tnDmkr2fqlaus 4fgh<6oBLu abci<UoM lW8ukftr cqpbnmijafkuYo DFgi<l8prH
  poDekr2fs6jn poDeur2at6jn =okftseqrnj abDeg2j6nBso ciphd8ujsqFYk :k6nM Fg2Rp3 pjDetr2fq6uS mhcpdnseqjukrfto :<6M
  michdnsequ<Yof acFh<UoM nasheBmicrotukf :hkUoBLu njh4Bmicotukfr kaDetr2fq6uS pjDetr2fk6uan :g2<8prs :i<l8prH
  :i<UoBru njqdap6ietorukf ujDatr2fq6oS pjDatr2fe6oun ejDktr2fq6oS abDeg2j6nBsok :g2RL dpacmhqSue<ftor
  ajq4phnicmourkft pjDLr2aq6neT liacmpjSeqTrfkt li?mhnseqjTfYk ljedaBnicmtTrfk ljedsahnicmfrkTt DFg2R3 abDeg2j6nBskfu
  :g2RBr :gij68prLu abcFg2<6M dscqbn2ja6fukotr :g2<6M abcFg2RprLu abcFg2RM :g2RM"]

def graphs : List Graph :=
 (words.zipIdx.flatMap fun (ws, n) => (Text.words ws).map (n, ·)).zipIdx.map fun ((n, w), i) =>
  Generate.numbered n false s!"G{i}"
   (((w.toList.flatMap letters).filterMap edge?).map fun (u, v) => (u, v))

def cmds : List Cmd := [
 ⟨"generators.atlas.graph_atlas_g", "", fun _ => .keepAll graphs⟩]

end DexLens.Network.Atlas
